import Mathlib.Data.Nat.Digits.Defs
import SqlMapper.Wire

/-!
Arguments stand for parameters. A client that does what is documented of it
(`Client.Documented`) gives a statement one argument for each parameter, in order, and the
bytes of an argument are read under its own type as the value they were written for
(`decode_encode`). So no two values have the same argument, however alike they are shown
(`arguments_stand_for_values`).
-/

namespace SqlMapper.Wire

def number (bytes : List UInt8) : Nat := Nat.ofDigits 256 (bytes.map UInt8.toNat).reverse

theorem ofDigits_range (n k : Nat) :
    Nat.ofDigits 256 ((List.range k).map fun i => n / 256 ^ i % 256) = n % 256 ^ k := by
  induction k with
  | zero => simp [Nat.mod_one]
  | succ k ih =>
    rw [List.range_succ, List.map_append, Nat.ofDigits_append, ih, List.length_map,
      List.length_range, List.map_singleton, Nat.ofDigits_singleton, Nat.mod_pow_succ]

theorem digits_bigEndian (w : UInt64) :
    ((bigEndian w).map UInt8.toNat).reverse =
      (List.range 8).map fun i => w.toNat / 256 ^ i % 256 := by
  simp [bigEndian, List.range_succ, Nat.shiftRight_eq_div_pow]

theorem number_bigEndian (w : UInt64) : number (bigEndian w) = w.toNat := by
  have bound : w.toNat < 256 ^ 8 := w.toNat_lt
  rw [number, digits_bigEndian, ofDigits_range, Nat.mod_eq_of_lt bound]

def word? (bytes : List UInt8) : Option UInt64 :=
  if bytes.length = 8 then some (UInt64.ofNat (number bytes)) else none

@[simp] theorem word?_bigEndian (w : UInt64) : word? (bigEndian w) = some w := by
  rw [word?, number_bigEndian, UInt64.ofNat_toNat]
  rfl

def truth? : List UInt8 → Option Bool
  | [0] => some false
  | [1] => some true
  | _ => none

@[simp] theorem truth?_singleton (b : Bool) : truth? [if b then 1 else 0] = some b := by
  cases b <;> rfl

def characters? (bytes : List UInt8) : Option String := String.fromUTF8? ⟨bytes.toArray⟩

@[simp] theorem characters?_toUTF8 (s : String) : characters? s.toUTF8.data.toList = some s := by
  rw [characters?, Array.toArray_toList]
  exact dif_pos s.isValidUTF8

def ArgumentType.read : ArgumentType → List UInt8 → Option Value
  | .bool, bytes => (truth? bytes).map .bool
  | .int8, bytes => (word? bytes).map fun w => .int w.toInt64
  | .float8, bytes => (word? bytes).map .float
  | .text, bytes => (characters? bytes).map .text

def Argument.decode (a : Argument) : Option Value :=
  if a.isNull then some .null else a.type.read a.bytes

@[simp] theorem Argument.decode_none (type : ArgumentType) :
    (Argument.mk type none).decode = some .null := rfl

@[simp] theorem Argument.decode_some (type : ArgumentType) (bytes : List UInt8) :
    (Argument.mk type (some bytes)).decode = type.read bytes := rfl

/-- What is documented of a client. A statement that gets an argument keeps its text and its
earlier arguments, and values are written in the binary format. -/
structure Client.Documented {π : Type} (c : Client π) : Prop where
  sql_bind : ∀ p a, c.sql (c.bind p a) = c.sql p
  arguments_bind : ∀ p a, c.arguments (c.bind p a) = c.arguments p ++ [a]
  absent_eq : c.absent = none
  bool_eq : ∀ b, c.bool b = some [if b then 1 else 0]
  int8_eq : ∀ n, c.int8 n = some (bigEndian n.toUInt64)
  float8_eq : ∀ bits, c.float8 bits = some (bigEndian bits)
  text_eq : ∀ s, c.text s = some s.toUTF8.data.toList

theorem binary_documented : binary.Documented :=
  ⟨fun _ _ => rfl, fun _ _ => rfl, rfl, fun _ => rfl, fun _ => rfl, fun _ => rfl, fun _ => rfl⟩

theorem Value.ofScalar_injective : Function.Injective Value.ofScalar := by
  intro s t h
  cases s <;> cases t <;> simp_all [ofScalar]
  case float.float x y =>
    obtain ⟨⟨bits, _⟩⟩ := x
    obtain ⟨⟨bits', _⟩⟩ := y
    obtain rfl : bits = bits' := h
    rfl

namespace Client

variable {π : Type} {c : Client π}

theorem sql_bindAll (h : c.Documented) (p : π) (vs : List Value) :
    c.sql (c.bindAll p vs) = c.sql p := by
  induction vs generalizing p with
  | nil => rfl
  | cons v vs ih =>
    calc c.sql (c.bindAll (c.bind p (c.encode v)) vs) = c.sql (c.bind p (c.encode v)) := ih _
      _ = c.sql p := h.sql_bind p _

theorem arguments_bindAll (h : c.Documented) (p : π) (vs : List Value) :
    c.arguments (c.bindAll p vs) = c.arguments p ++ vs.map c.encode := by
  induction vs generalizing p with
  | nil => simp [bindAll]
  | cons v vs ih =>
    calc c.arguments (c.bindAll (c.bind p (c.encode v)) vs)
        = c.arguments (c.bind p (c.encode v)) ++ vs.map c.encode := ih _
      _ = c.arguments p ++ [c.encode v] ++ vs.map c.encode := by rw [h.arguments_bind]
      _ = c.arguments p ++ (v :: vs).map c.encode := by simp

theorem decode_encode (h : c.Documented) (v : Value) : (c.encode v).decode = some v := by
  rw [encode]
  cases v with
  | null => rw [payload, h.absent_eq, Argument.decode_none]
  | bool b => simp [payload, h.bool_eq, argumentType, ArgumentType.read]
  | int n => simp [payload, h.int8_eq, argumentType, ArgumentType.read]
  | float bits => simp [payload, h.float8_eq, argumentType, ArgumentType.read]
  | text s =>
    rw [payload, h.text_eq, Argument.decode_some, argumentType, ArgumentType.read,
      characters?_toUTF8]
    rfl

theorem encode_injective (h : c.Documented) : Function.Injective c.encode := by
  intro v w same
  have read := decode_encode h v
  rw [same, decode_encode h w] at read
  exact (Option.some.inj read).symm

end Client

theorem Argument.eq_of_parts {a b : Argument} (type : a.type = b.type) (null : a.isNull = b.isNull)
    (bytes : a.bytes = b.bytes) : a = b := by
  obtain ⟨_, x⟩ := a
  obtain ⟨_, y⟩ := b
  cases x <;> cases y <;> simp_all [isNull, Argument.bytes]

/-- The text of a statement stays as it is, and each parameter adds one argument, in its
place. What an argument holds is read under its own type as the value it was added for. So
values with the same type, the same mark of null and the same bytes are the same, doubles
down to their bits; null is not the empty text, and scalars of different kinds are told
apart even where they are shown alike. -/
theorem arguments_stand_for_values {π : Type} {c : Client π} (h : c.Documented) :
    (∀ (p : π) (vs : List Value), c.sql (c.bindAll p vs) = c.sql p ∧
      ∃ added : List Argument, c.arguments (c.bindAll p vs) = c.arguments p ++ added ∧
        added.length = vs.length ∧ ∀ k : Nat, added[k]? = vs[k]?.map c.encode) ∧
    (∀ v, (c.encode v).decode = some v) ∧
    (∀ v w, (c.encode v).type = (c.encode w).type → (c.encode v).isNull = (c.encode w).isNull →
      (c.encode v).bytes = (c.encode w).bytes → v = w) ∧
    c.encode .null ≠ c.encode (.text "") ∧
    (∀ s t : Scalar, s.kind ≠ t.kind → c.encode (.ofScalar s) ≠ c.encode (.ofScalar t)) ∧
    ∀ s t : Scalar, c.encode (.ofScalar s) = c.encode (.ofScalar t) → s = t := by
  have apart := Client.encode_injective h
  have scalar (s t : Scalar) (same : c.encode (.ofScalar s) = c.encode (.ofScalar t)) : s = t :=
    Value.ofScalar_injective (apart same)
  refine ⟨?_, Client.decode_encode h, ?_, ?_, ?_, scalar⟩
  · intro p vs
    refine ⟨Client.sql_bindAll h p vs, vs.map c.encode, Client.arguments_bindAll h p vs, ?_, ?_⟩
    · exact List.length_map _
    · intro k
      exact List.getElem?_map
  · intro v w type null bytes
    exact apart (Argument.eq_of_parts type null bytes)
  · intro same
    cases apart same
  · intro s t kind same
    exact kind (congrArg Scalar.kind (scalar s t same))

theorem arguments_stand_for_lookalikes :
    let p : Prepared := ⟨"insert into t values ($1, $2, $3, $4, $5, $6)", []⟩
    let ones : List Scalar := [.null, .text "", .text "1", .int 1, .bool true, .float 1]
    binary.Documented ∧ (p.bindAll ones).sql = p.sql ∧ (p.bindAll ones).arguments.length = 6 ∧
      (p.bindAll ones).arguments[3]? = some ⟨.int8, some [0, 0, 0, 0, 0, 0, 0, 1]⟩ ∧
      (binary.encode (.int (-2))).decode = some (.int (-2)) ∧
      (binary.encode (.float 0x7ff8000000000001)).bytes ≠
        (binary.encode (.float 0x7ff8000000000002)).bytes := by
  intro p ones
  obtain ⟨placed, read, apart, -⟩ := arguments_stand_for_values binary_documented
  obtain ⟨kept, added, arguments, count, place⟩ := placed p (ones.map .ofScalar)
  have all : (p.bindAll ones).arguments = added := arguments
  refine ⟨binary_documented, kept, ?_, ?_, read _, ?_⟩
  · rw [all, count]
    rfl
  · rw [all, place]
    decide
  · intro same
    have equal := apart (.float 0x7ff8000000000001) (.float 0x7ff8000000000002) rfl rfl same
    cases equal

end SqlMapper.Wire

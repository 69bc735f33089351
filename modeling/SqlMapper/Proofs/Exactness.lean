import SqlMapper.Model.Record
import SqlMapper.Proofs.Members
import SqlMapper.Proofs.Persistence
import SqlMapper.Proofs.Separation
import SqlMapper.Scalar.Untagged

/-!
Scalars and the JSON they are read from. The untagged readers and writers agree with the
conversions that statements use, and a scalar is read back from what it was written as
unless it is a double that is not finite (`untagged_agrees`). A value is given back exactly
unless it is a whole number above the signed 64-bit range, which becomes a double. Keys and
fields without such numbers are therefore never bound as the same parameter when they
differ (`exact_kept_apart`).
-/

namespace SqlMapper

def Number.toFloat : Number → Float
  | .int n _ _ => Float.ofInt n
  | .float x _ => x

theorem Number.ofInt64_eq {n : Int} (low : -0x8000000000000000 ≤ n)
    (high : n < 0x10000000000000000) (signed : n < 0x8000000000000000) :
    ofInt64 (Int64.ofInt n) = .int n low high := by
  have value : (Int64.ofInt n).toInt = n := Int64.toInt_ofInt_of_le low signed
  simp only [ofInt64, value]

theorem Number.signed_or (k : Number) :
    (∃ i, k = ofInt64 i) ∨ (∃ n low high, k = .int n low high ∧ 0x8000000000000000 ≤ n) ∨
      ∃ x finite, k = .float x finite := by
  cases k with
  | int n low high =>
    by_cases signed : n < 0x8000000000000000
    · exact .inl ⟨_, (ofInt64_eq low high signed).symm⟩
    · exact .inr (.inl ⟨n, low, high, rfl, by omega⟩)
  | float x finite => exact .inr (.inr ⟨x, finite, rfl⟩)

theorem Number.ofInt64_ne_int {n : Int} {low : -0x8000000000000000 ≤ n}
    {high : n < 0x10000000000000000} (large : 0x8000000000000000 ≤ n) (i : Int64) :
    int n low high ≠ ofInt64 i := by
  intro h
  have bound := i.toInt_lt
  cases h
  omega

namespace Scalar

theorem ofWhole_of_signed {n : Int} (low : -0x8000000000000000 ≤ n)
    (signed : n < 0x8000000000000000) : ofWhole n = .int (Int64.ofInt n) := by
  rw [ofWhole, if_pos ⟨low, signed⟩]

theorem ofWhole_of_large {n : Int} (large : 0x8000000000000000 ≤ n) :
    ofWhole n = .float (Float.ofInt n) := by
  rw [ofWhole, if_neg (by omega)]

theorem ofJson?_ofInt64 (i : Int64) : ofJson? (.ofInt64 i) = some (.int i) := by
  show some (ofWhole i.toInt) = _
  rw [ofWhole_of_signed i.le_toInt i.toInt_lt, Int64.ofInt_toInt]

theorem ofJson?_num {k : Number} (h : ∀ i, k ≠ .ofInt64 i) :
    ofJson? (.num k) = some (.float k.toFloat) := by
  obtain ⟨i, rfl⟩ | ⟨n, low, high, rfl, large⟩ | ⟨x, finite, rfl⟩ := k.signed_or
  · exact absurd rfl (h i)
  · show some (ofWhole n) = _
    rw [ofWhole_of_large large]
    rfl
  · rfl

theorem toJson_float {x : Float} (finite : x.isFinite = true) :
    (Scalar.float x).toJson = .num (.float x finite) := dif_pos finite

theorem toJson_float_of_not_finite {x : Float} (h : x.isFinite = false) :
    (Scalar.float x).toJson = .null := by
  apply dif_neg
  simp [h]

theorem ofJson?_toJson (s : Scalar) (finite : ∀ x, s = .float x → x.isFinite = true) :
    ofJson? s.toJson = some s := by
  cases s with
  | int i => exact ofJson?_ofInt64 i
  | float x => rw [toJson_float (finite x rfl), ofJson?]
  | _ => rfl

namespace Untagged

theorem readInt_ofInt64 (i : Int64) : readInt (.ofInt64 i) = some (.int i) := by
  have bound : i.toInt < 0x8000000000000000 := i.toInt_lt
  rw [Json.ofInt64, Number.ofInt64, readInt, if_pos bound, Int64.ofInt_toInt]

theorem readInt_num {k : Number} (h : ∀ i, k ≠ .ofInt64 i) : readInt (.num k) = none := by
  obtain ⟨i, rfl⟩ | ⟨n, low, high, rfl, large⟩ | ⟨x, finite, rfl⟩ := k.signed_or
  · exact absurd rfl (h i)
  · exact if_neg (by omega)
  · rfl

theorem readFloat_num (k : Number) : readFloat (.num k) = some (.float k.toFloat) := by
  cases k <;> rfl

theorem read?_num (k : Number) :
    read? (.num k) = (readInt (.num k)).or (some (.float k.toFloat)) := by
  rw [← readFloat_num k]
  cases h : readInt (.num k) <;>
    simp [read?, readers, List.findSome?, readNull, readBool, readFloat_num, h]

theorem read?_eq (v : Json) : read? v = ofJson? v := by
  cases v with
  | num k =>
    rw [read?_num]
    by_cases signed : ∃ i, k = .ofInt64 i
    · obtain ⟨i, rfl⟩ := signed
      rw [← Json.ofInt64, readInt_ofInt64, ofJson?_ofInt64, Option.some_or]
    · rw [not_exists] at signed
      rw [readInt_num signed, ofJson?_num signed, Option.none_or]
  | _ => rfl

theorem write_eq (s : Scalar) : write s = s.toJson := by
  cases s <;> rfl

end Untagged

/-- Trying the kinds of scalars in turn reads what the direct conversion reads: whole numbers
of the signed range as such and every other number as a double. Both write the same JSON,
from which each scalar is read back unless it is a double that is not finite. -/
theorem untagged_agrees :
    (∀ v, Untagged.read? v = ofJson? v) ∧
    (∀ i : Int64, Untagged.read? (.ofInt64 i) = some (.int i)) ∧
    (∀ k : Number, (∀ i : Int64, k ≠ .ofInt64 i) →
      Untagged.read? (.num k) = some (.float k.toFloat)) ∧
    (∀ s, Untagged.write s = s.toJson) ∧
    (∀ s, (∀ x, s = .float x → x.isFinite = true) → ofJson? s.toJson = some s) ∧
    ∀ x : Float, x.isFinite = false → ofJson? (Scalar.float x).toJson = some .null := by
  refine ⟨Untagged.read?_eq, fun i => ?_, fun k h => ?_, Untagged.write_eq, ofJson?_toJson, ?_⟩
  · rw [Untagged.read?_eq, ofJson?_ofInt64]
  · rw [Untagged.read?_eq, ofJson?_num h]
  · intro x h
    rw [toJson_float_of_not_finite h]
    rfl

theorem untagged_agrees_at_bounds :
    Untagged.read? (.num (.int (-0x8000000000000000) (by decide) (by decide))) =
      some (.int Int64.minValue) ∧
    Untagged.read? (.num (.int 0x7fffffffffffffff (by decide) (by decide))) =
      some (.int Int64.maxValue) ∧
    Untagged.read? (.num (.int 0x8000000000000000 (by decide) (by decide))) =
      some (.float 9223372036854775808) ∧
    Untagged.read? (.num (.int 0xffffffffffffffff (by decide) (by decide))) =
      some (.float 18446744073709551616) ∧
    ofJson? (Scalar.float 0.5).toJson = some (.float 0.5) ∧
    ofJson? (Scalar.float (0 / 0)).toJson = some .null := by
  obtain ⟨-, signed, double, -, back, lost⟩ := untagged_agrees
  have half : ∀ x, Scalar.float 0.5 = .float x → x.isFinite = true := by
    rintro x ⟨⟩
    decide
  have above := double (.int 0x8000000000000000 (by decide) (by decide))
    (Number.ofInt64_ne_int (by decide))
  have last := double (.int 0xffffffffffffffff (by decide) (by decide))
    (Number.ofInt64_ne_int (by decide))
  refine ⟨signed Int64.minValue, signed Int64.maxValue, ?_, ?_, back _ half, lost _ (by decide)⟩
  · rw [above, show Number.toFloat _ = (9223372036854775808 : Float) by decide]
  · rw [last, show Number.toFloat _ = (18446744073709551616 : Float) by decide]

end Scalar

structure Json.Exact (v : Json) : Prop where
  plain : v.Plain
  signed : ∀ n low high, v = .num (.int n low high) → n < 0x8000000000000000

namespace Scalar

theorem exact_or {v : Json} (plain : v.Plain) :
    v.Exact ∨ ∃ n low high, v = .num (.int n low high) ∧ 0x8000000000000000 ≤ n := by
  by_cases large : ∃ n low high, v = .num (.int n low high) ∧ 0x8000000000000000 ≤ n
  · exact .inr large
  · refine .inl ⟨plain, fun n low high h => ?_⟩
    by_contra above
    exact large ⟨n, low, high, h, by omega⟩

theorem ofJson?_of_signed {n : Int} {low : -0x8000000000000000 ≤ n}
    {high : n < 0x10000000000000000} (signed : n < 0x8000000000000000) :
    ∃ i : Int64, i.toInt = n ∧ ofJson? (.num (.int n low high)) = some (.int i) := by
  refine ⟨Int64.ofInt n, Int64.toInt_ofInt_of_le low signed, ?_⟩
  rw [ofJson?, ofWhole_of_signed low signed]

theorem ofJson?_of_large {n : Int} {low : -0x8000000000000000 ≤ n}
    {high : n < 0x10000000000000000} (large : 0x8000000000000000 ≤ n) :
    ofJson? (.num (.int n low high)) = some (.float (Float.ofInt n)) :=
  ofJson?_num (Number.ofInt64_ne_int large)

theorem toJson_float_ne_int (x : Float) (n : Int) (low : -0x8000000000000000 ≤ n)
    (high : n < 0x10000000000000000) : (Scalar.float x).toJson ≠ .num (.int n low high) := by
  cases finite : x.isFinite with
  | true =>
    rw [toJson_float finite]
    nofun
  | false =>
    rw [toJson_float_of_not_finite finite]
    nofun

theorem exists_ofJson?_of_exact {v : Json} (h : v.Exact) :
    ∃ s, ofJson? v = some s ∧ s.toJson = v := by
  cases v with
  | num k =>
    obtain ⟨i, rfl⟩ | ⟨n, low, high, rfl, large⟩ | ⟨x, finite, rfl⟩ := k.signed_or
    · exact ⟨.int i, ofJson?_ofInt64 i, rfl⟩
    · have below := h.signed n low high rfl
      omega
    · exact ⟨.float x, rfl, toJson_float finite⟩
  | arr items => exact absurd rfl h.plain.1
  | obj members => exact absurd rfl h.plain.2
  | _ => exact ⟨_, rfl, rfl⟩

theorem exists_ofJson?_iff_exact (v : Json) :
    (∃ s, ofJson? v = some s ∧ s.toJson = v) ↔ v.Exact := by
  refine ⟨fun kept => ?_, exists_ofJson?_of_exact⟩
  obtain ⟨s, read, back⟩ := kept
  have plain : v.Plain := by
    by_contra parts
    rw [Json.not_plain_iff, read] at parts
    cases parts
  obtain exact | ⟨n, low, high, rfl, large⟩ := exact_or plain
  · exact exact
  · rw [ofJson?_of_large large, Option.some.injEq] at read
    rw [← read] at back
    exact absurd back (toJson_float_ne_int _ n low high)

theorem ofJson?_inj {v w : Json} (hv : v.Exact) (hw : w.Exact) (h : ofJson? v = ofJson? w) :
    v = w := by
  obtain ⟨s, read, back⟩ := exists_ofJson?_of_exact hv
  obtain ⟨t, read', back'⟩ := exists_ofJson?_of_exact hw
  rw [read, read', Option.some.injEq] at h
  rw [← back, ← back', h]

end Scalar

def Fields.ExactAt (f : Fields Json) (name : String) : Prop :=
  ∀ v, f.get? name = some v → v.Exact

theorem Fields.get?_eq_of_scalar {f g : Fields Json} {name : String} {s : Scalar}
    (hf : ∃ v, f.get? name = some v ∧ v ≠ .null ∧ Scalar.ofJson? v = some s)
    (hg : ∃ v, g.get? name = some v ∧ v ≠ .null ∧ Scalar.ofJson? v = some s)
    (exact : f.ExactAt name) (exact' : g.ExactAt name) : f.get? name = g.get? name := by
  obtain ⟨v, there, -, read⟩ := hf
  obtain ⟨w, there', -, read'⟩ := hg
  have same : v = w :=
    Scalar.ofJson?_inj (exact v there) (exact' w there') (read.trans read'.symm)
  rw [there, there', same]

theorem Statement.column_inj {model : String} {v w : String × Json} {c : String × Scalar}
    (hv : v.2.Exact) (hw : w.2.Exact) (written : column model v = .ok c)
    (written' : column model w = .ok c) : v = w := by
  obtain ⟨-, name, read⟩ := (column_eq_ok_iff model v c).1 written
  obtain ⟨-, name', read'⟩ := (column_eq_ok_iff model w c).1 written'
  exact Prod.ext (name.symm.trans name') (Scalar.ofJson?_inj hv hw (read.trans read'.symm))

/-- A value is read as a scalar that gives it back if and only if it is exact; a whole number
above the signed range becomes the double nearest to it. Different exact values are different
scalars, so that they are never bound as one parameter, be it as the key of a model, as the
key a child holds of its parent, or as the value of a column. -/
theorem exact_kept_apart :
    (∀ v, (∃ s, Scalar.ofJson? v = some s ∧ s.toJson = v) ↔ v.Exact) ∧
    (∀ n low high, n < 0x8000000000000000 →
      ∃ i : Int64, i.toInt = n ∧ Scalar.ofJson? (.num (.int n low high)) = some (.int i)) ∧
    (∀ n low high, 0x8000000000000000 ≤ n →
      Scalar.ofJson? (.num (.int n low high)) = some (.float (Float.ofInt n))) ∧
    (∀ v w : Json, v.Exact → w.Exact → Scalar.ofJson? v = Scalar.ofJson? w → v = w) ∧
    (∀ {α : Type} (m : Model α) (info : Metadata) (f g : Fields Json) (id : Scalar),
      f.ExactAt info.primaryKey → g.ExactAt info.primaryKey →
      m.keyValue info f = .ok (some id) → m.keyValue info g = .ok (some id) →
      f.get? info.primaryKey = g.get? info.primaryKey) ∧
    (∀ {α : Type} (child : Model α) (key : String) (f g : Fields Json) (id : Scalar),
      f.ExactAt key → g.ExactAt key →
      Operation.foreignKey child key f = .ok (some id) →
      Operation.foreignKey child key g = .ok (some id) → f.get? key = g.get? key) ∧
    ∀ (model : String) (v w : String × Json) (c : String × Scalar), v.2.Exact → w.2.Exact →
      Statement.column model v = .ok c → Statement.column model w = .ok c → v = w := by
  refine ⟨Scalar.exists_ofJson?_iff_exact, fun n low high => Scalar.ofJson?_of_signed,
    fun n low high => Scalar.ofJson?_of_large, fun v w => Scalar.ofJson?_inj, ?_, ?_, ?_⟩
  · intro α m info f g id exact exact' read read'
    exact Fields.get?_eq_of_scalar (Model.keyValue_eq_some_iff.1 read)
      (Model.keyValue_eq_some_iff.1 read') exact exact'
  · intro α child key f g id exact exact' read read'
    exact Fields.get?_eq_of_scalar ((Operation.foreignKey_eq_some_iff child).1 read)
      ((Operation.foreignKey_eq_some_iff child).1 read') exact exact'
  · intro model v w c
    exact Statement.column_inj

theorem exact_kept_apart_at_last :
    let last : Json := .num (.int 0x7fffffffffffffff (by decide) (by decide))
    let digits : Json := .str "9223372036854775807"
    let note : Model Json := .untyped "blog.Note" "Note"
    last.Exact ∧ digits.Exact ∧ Scalar.ofJson? last = some (.int Int64.maxValue) ∧
      Scalar.ofJson? last ≠ Scalar.ofJson? digits ∧
      ∀ id, note.keyValue note.metadata (.ofList [("id", last)]) = .ok (some id) →
        note.keyValue note.metadata (.ofList [("id", digits)]) ≠ .ok (some id) := by
  intro last digits note
  obtain ⟨kept, -, -, apart, keys, -, -⟩ := exact_kept_apart
  have read : Scalar.ofJson? last = some (.int Int64.maxValue) :=
    Scalar.ofJson?_ofInt64 Int64.maxValue
  have hlast : last.Exact := (kept last).1 ⟨.int Int64.maxValue, read, rfl⟩
  have hdigits : digits.Exact := (kept digits).1 ⟨.text "9223372036854775807", rfl, rfl⟩
  have different : last ≠ digits := nofun
  have lastAt : (Fields.ofList [("id", last)]).ExactAt "id" := by
    rintro v ⟨⟩
    exact hlast
  have digitsAt : (Fields.ofList [("id", digits)]).ExactAt "id" := by
    rintro v ⟨⟩
    exact hdigits
  refine ⟨hlast, hdigits, read, ?_, ?_⟩
  · intro same
    exact different (apart last digits hlast hdigits same)
  · intro id found found'
    have same := keys note note.metadata _ _ id lastAt digitsAt found found'
    exact different (Option.some.inj same)

/-- Two whole numbers next to each other above the signed range are bound as one double, and
neither is given back. -/
theorem neighbours_conflated :
    let a : Json := .num (.int 0x8000000000000000 (by decide) (by decide))
    let b : Json := .num (.int 0x8000000000000001 (by decide) (by decide))
    let note : Model Json := .untyped "blog.Note" "Note"
    let bound : Scalar := .float 9223372036854775808
    a ≠ b ∧ Scalar.ofJson? a = some bound ∧ Scalar.ofJson? b = some bound ∧
      bound.toJson ≠ a ∧ bound.toJson ≠ b ∧
      note.keyValue note.metadata (.ofList [("id", a)]) = .ok (some bound) ∧
      note.keyValue note.metadata (.ofList [("id", b)]) = .ok (some bound) := by
  intro a b note bound
  have first : Float.ofInt 0x8000000000000000 = 9223372036854775808 := by decide
  have second : Float.ofInt 0x8000000000000001 = 9223372036854775808 := by decide
  have readA : Scalar.ofJson? a = some bound := by
    rw [Scalar.ofJson?_of_large (by decide), first]
  have readB : Scalar.ofJson? b = some bound := by
    rw [Scalar.ofJson?_of_large (by decide), second]
  have keyed {k : Number} (read : Scalar.ofJson? (.num k) = some bound) :
      note.keyValue note.metadata (.ofList [("id", .num k)]) = .ok (some bound) :=
    Model.keyValue_eq_some_iff.2 ⟨.num k, rfl, by simp, read⟩
  have different : a ≠ b := by simp [a, b]
  exact ⟨different, readA, readB, Scalar.toJson_float_ne_int _ _ _ _,
    Scalar.toJson_float_ne_int _ _ _ _, keyed readA, keyed readB⟩

end SqlMapper

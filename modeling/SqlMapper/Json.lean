/-!
JSON values. A number is a whole number of 64 bits, signed or unsigned, or a
finite double; the two are told apart. The members of an object are kept in
ascending order of their keys, each key once (`Json.Ordered`).
-/

namespace SqlMapper

inductive Number where
  | int (value : Int) (low : -0x8000000000000000 ≤ value) (high : value < 0x10000000000000000)
  | float (value : Float) (finite : value.isFinite = true)

def Number.ofInt? (n : Int) : Option Number :=
  if low : -0x8000000000000000 ≤ n then
    if high : n < 0x10000000000000000 then some (.int n low high) else none
  else none

def Number.ofInt64 (n : Int64) : Number :=
  .int n.toInt (by have := n.le_toInt; omega) (by have := n.toInt_lt; omega)

def Number.ofNat (n : Nat) (high : n < 0x10000000000000000) : Number := .int n (by omega) (by omega)

inductive Json where
  | null
  | bool (value : Bool)
  | num (value : Number)
  | str (value : String)
  | arr (items : List Json)
  | obj (members : List (String × Json))
deriving Inhabited

inductive JsonKind where
  | null
  | boolean
  | number
  | string
  | array
  | object
deriving DecidableEq, Repr

def JsonKind.name : JsonKind → String
  | .null => "null"
  | .boolean => "boolean"
  | .number => "number"
  | .string => "string"
  | .array => "array"
  | .object => "object"

namespace Json

def kind : Json → JsonKind
  | .null => .null
  | .bool _ => .boolean
  | .num _ => .number
  | .str _ => .string
  | .arr _ => .array
  | .obj _ => .object

/-- A double that is not finite has no number and reads as null. -/
def ofFloat (x : Float) : Json :=
  if h : x.isFinite = true then .num (.float x h) else .null

def ofInt64 (n : Int64) : Json := .num (.ofInt64 n)

inductive Ordered : Json → Prop
  | null : Ordered .null
  | bool (b : Bool) : Ordered (.bool b)
  | num (n : Number) : Ordered (.num n)
  | str (s : String) : Ordered (.str s)
  | arr (items : List Json) (each : ∀ v ∈ items, Ordered v) : Ordered (.arr items)
  | obj (members : List (String × Json))
      (ascending : (members.map Prod.fst).Pairwise (· < ·))
      (each : ∀ m ∈ members, Ordered m.2) : Ordered (.obj members)

end Json

end SqlMapper

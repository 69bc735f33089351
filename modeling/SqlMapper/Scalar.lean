import SqlMapper.Json
import SqlMapper.Decimal.Layout

/-!
Scalars: the values that are bound to a statement or spliced into it. A JSON
value that is not a list or an object is a scalar, and a whole number above the
signed 64-bit range is taken as a double. Writing a scalar as JSON gives it back
except that a double that is not finite has no number and becomes null.
-/

namespace SqlMapper

inductive Scalar where
  | null
  | bool (value : Bool)
  | int (value : Int64)
  | float (value : Float)
  | text (value : String)
deriving DecidableEq, Inhabited

def Scalar.ofWhole (n : Int) : Scalar :=
  if -0x8000000000000000 ≤ n ∧ n < 0x8000000000000000 then .int (Int64.ofInt n)
  else .float (Float.ofInt n)

namespace Scalar

def ofJson? : Json → Option Scalar
  | .null => some .null
  | .bool b => some (.bool b)
  | .num (.int n _ _) => some (ofWhole n)
  | .num (.float x _) => some (.float x)
  | .str s => some (.text s)
  | .arr _ => none
  | .obj _ => none

def toJson : Scalar → Json
  | .null => .null
  | .bool b => .bool b
  | .int n => .ofInt64 n
  | .float x => .ofFloat x
  | .text s => .str s

def isNull : Scalar → Bool
  | .null => true
  | _ => false

/-- The text that is spliced into a statement or wrapped in wildcards. -/
def literal : Scalar → String
  | .null => ""
  | .bool b => if b then "1" else "0"
  | .int n => toString n.toInt
  | .float x => Decimal.plain.text x
  | .text s => s

def display : Scalar → String
  | .null => "null"
  | .text s => "'" ++ s ++ "'"
  | v => v.literal

/-- Equality as the values compare: no double equals NaN, both zeros are equal,
and a whole number is never equal to a double. -/
def same : Scalar → Scalar → Bool
  | .null, .null => true
  | .bool a, .bool b => a == b
  | .int a, .int b => a == b
  | .float a, .float b => a == b
  | .text a, .text b => a == b
  | _, _ => false

inductive Kind where
  | null
  | bool
  | int
  | float
  | text
deriving DecidableEq, Repr

def kind : Scalar → Kind
  | .null => .null
  | .bool _ => .bool
  | .int _ => .int
  | .float _ => .float
  | .text _ => .text

def Kind.name : Kind → String
  | .null => "null"
  | .bool => "bool"
  | .int => "int"
  | .float => "float"
  | .text => "text"

end Scalar

end SqlMapper

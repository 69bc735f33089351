import SqlMapper.Json
import SqlMapper.Json.Flaw
import SqlMapper.Decimal.Layout
import SqlMapper.Text.Quoted

/-!
Why a JSON value could not be read as a value of a given shape. A fault names
what stood there and what the shape wanted in its place.
-/

namespace SqlMapper.Record

inductive Wanted where
  | whole
  | text
  | truth
  | sequence
  | unit
  | record (name : String)
  | recordOf (name : String) (fields : Nat)
  | fewerElements
  | choice
  | singleKey
deriving DecidableEq, Repr

def Wanted.phrase : Wanted → String
  | .whole => "i64"
  | .text => "a string"
  | .truth => "a boolean"
  | .sequence => "a sequence"
  | .unit => "unit"
  | .record name => "struct " ++ name
  | .recordOf name 1 => "struct " ++ name ++ " with 1 element"
  | .recordOf name n => "struct " ++ name ++ " with " ++ toString n ++ " elements"
  | .fewerElements => "fewer elements in array"
  | .choice => "string or map"
  | .singleKey => "map with a single key"

def describe : Json → String
  | .null => "null"
  | .bool b => "boolean `" ++ (if b then "true" else "false") ++ "`"
  | .num (.int n _ _) => "integer `" ++ toString n ++ "`"
  | .num (.float x _) => "floating point `" ++ Decimal.rejected.text x ++ "`"
  | .str s => "string " ++ Text.quoted s
  | .arr _ => "sequence"
  | .obj _ => "map"

inductive Fault where
  /-- A value of the wrong type. -/
  | type (found : Json) (wanted : Wanted)
  /-- A value of the right type and out of range. -/
  | value (found : Json) (wanted : Wanted)
  | length (found : Nat) (wanted : Wanted)
  | missing (field : String)
  /-- A name that is none of the choices. -/
  | variant (found : String) (choices : String)
  /-- A list or an object where only scalars are possible. -/
  | notScalar
  /-- A text that is not JSON. -/
  | text (flaw : Json.Flaw) (line column : Nat)
  /-- What a reader of a model's own says of a row. -/
  | other (reason : String)

def Fault.message : Fault → String
  | .type found wanted => "invalid type: " ++ describe found ++ ", expected " ++ wanted.phrase
  | .value found wanted => "invalid value: " ++ describe found ++ ", expected " ++ wanted.phrase
  | .length found wanted =>
    "invalid length " ++ toString found ++ ", expected " ++ wanted.phrase
  | .missing field => "missing field `" ++ field ++ "`"
  | .variant found choices => "unknown variant `" ++ found ++ "`, expected " ++ choices
  | .notScalar => "data did not match any variant of untagged enum BindValue"
  | .text flaw line column =>
    flaw.phrase ++ " at line " ++ toString line ++ " column " ++ toString column
  | .other reason => reason

end SqlMapper.Record

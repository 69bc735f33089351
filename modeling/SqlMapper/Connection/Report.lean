import SqlMapper.Connection.Exec
import SqlMapper.Decimal.Layout
import SqlMapper.Text.Quoted

/-!
The written form of events: a level, and named fields in a fixed order. Shown
parameters are listed with their kinds, texts in quotes and escaped.

A run has no clock, so how long an answer took is not among the fields. Nor are the
other lines of a trace modelled, which nothing depends on: a template that was bound,
settings that were loaded, metadata that was not in the cache, the length of a chain,
a statement that an operation is about to read or write with.
-/

namespace SqlMapper

inductive Level where
  | debug
  | warn
  | error
deriving DecidableEq, Repr

def Level.name : Level → String
  | .debug => "DEBUG"
  | .warn => "WARN"
  | .error => "ERROR"

def Scalar.listed : Scalar → String
  | .null => "Null"
  | .bool b => "Bool(" ++ (if b then "true" else "false") ++ ")"
  | .int n => "Int(" ++ toString n.toInt ++ ")"
  | .float x => "Float(" ++ Decimal.listed.text x ++ ")"
  | .text s => "Text(" ++ Text.quoted s ++ ")"

def listedParams (params : List Scalar) : String :=
  "[" ++ String.intercalate ", " (params.map Scalar.listed) ++ "]"

inductive FieldValue where
  | text (s : String)
  | count (n : Nat)
  | truth (b : Bool)
deriving DecidableEq, Repr

def Shown.value : Shown → FieldValue
  | .values params => .text (listedParams params)
  | .count n => .count n

namespace Event

def level : Event → Level
  | query .. => .debug
  | done .. => .debug
  | failed _ => .warn
  | exhausted _ => .error

def fields : Event → List (String × FieldValue)
  | query sql params => [("message", .text "query"), ("sql", .text sql), ("params", params.value)]
  | done rows success =>
    [("message", .text "query done"), ("rows", .count rows), ("success", .truth success)]
  | failed error => [("message", .text "query failed"), ("error", .text error.message)]
  | exhausted sql => [("message", .text "middleware chain exhausted"), ("sql", .text sql)]

end Event

end SqlMapper

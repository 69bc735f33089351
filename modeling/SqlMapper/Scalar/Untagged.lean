import SqlMapper.Scalar
import SqlMapper.Json.Reader

/-!
Scalars in an untagged exchange format: a value stands for the first kind, in
the order null, boolean, whole number, double, text, whose reader accepts it,
and each kind is written as the plain value it holds.
-/

namespace SqlMapper.Scalar.Untagged

def readNull : Json → Option Scalar
  | .null => some .null
  | _ => none

def readBool : Json → Option Scalar
  | .bool b => some (.bool b)
  | _ => none

def readInt : Json → Option Scalar
  | .num (.int n _ _) => if n < 0x8000000000000000 then some (.int (Int64.ofInt n)) else none
  | _ => none

def readFloat : Json → Option Scalar
  | .num (.int n _ _) => some (.float (Float.ofInt n))
  | .num (.float x _) => some (.float x)
  | _ => none

def readText : Json → Option Scalar
  | .str s => some (.text s)
  | _ => none

def readers : List (Json → Option Scalar) := [readNull, readBool, readInt, readFloat, readText]

def read? (v : Json) : Option Scalar := readers.findSome? fun reader => reader v

def ofText (text : String) : Except Record.Fault Scalar :=
  Json.Reader.read (fun v => (read? v).elim (.error .notScalar) .ok) text

def write : Scalar → Json
  | .null => .null
  | .bool b => .bool b
  | .int n => .num (.ofInt64 n)
  | .float x => if h : x.isFinite = true then .num (.float x h) else .null
  | .text s => .str s

end SqlMapper.Scalar.Untagged

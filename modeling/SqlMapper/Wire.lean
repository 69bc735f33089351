import SqlMapper.Query

/-!
Arguments of a prepared statement. A client of the database writes values of the types
it knows and adds arguments to statements; parameters are handed to it one after the
other. In the binary format of the protocol whole numbers and doubles are eight bytes
with the highest first, a truth value is one byte, a text its UTF-8 bytes. Null has no
bytes at all and counts as text.
-/

namespace SqlMapper.Wire

inductive ArgumentType where
  | bool
  | int8
  | float8
  | text
deriving DecidableEq, Repr

def ArgumentType.name : ArgumentType → String
  | .bool => "BOOL"
  | .int8 => "INT8"
  | .float8 => "FLOAT8"
  | .text => "TEXT"

structure Argument where
  type : ArgumentType
  payload : Option (List UInt8)
deriving DecidableEq, Repr

def Argument.isNull (a : Argument) : Bool := a.payload.isNone

def Argument.bytes (a : Argument) : List UInt8 := a.payload.getD []

def undetermined : ArgumentType := .text

/-- A scalar as it is held by the host. A double is its bits: of those that are no number
there are many, and they are told apart. -/
inductive Value where
  | null
  | bool (value : Bool)
  | int (value : Int64)
  | float (bits : UInt64)
  | text (value : String)
deriving DecidableEq, Repr

def Value.ofScalar : Scalar → Value
  | .null => .null
  | .bool b => .bool b
  | .int n => .int n
  | .float x => .float x.toBits
  | .text s => .text s

def argumentType : Value → ArgumentType
  | .null => .text
  | .bool _ => .bool
  | .int _ => .int8
  | .float _ => .float8
  | .text _ => .text

/-- What a client does with statements `π`, and how it writes values of its own types: as
bytes or, for null, as nothing. -/
structure Client (π : Type) where
  sql : π → String
  arguments : π → List Argument
  /-- A statement with one more argument. -/
  bind : π → Argument → π
  absent : Option (List UInt8)
  bool : Bool → Option (List UInt8)
  int8 : Int64 → Option (List UInt8)
  /-- A double is given by its bits. -/
  float8 : UInt64 → Option (List UInt8)
  text : String → Option (List UInt8)

namespace Client

variable {π : Type} (c : Client π)

def payload : Value → Option (List UInt8)
  | .null => c.absent
  | .bool b => c.bool b
  | .int n => c.int8 n
  | .float bits => c.float8 bits
  | .text s => c.text s

def encode (v : Value) : Argument := ⟨argumentType v, c.payload v⟩

def bindAll (p : π) (vs : List Value) : π := vs.foldl (fun p v => c.bind p (c.encode v)) p

end Client

def bigEndian (w : UInt64) : List UInt8 :=
  [56, 48, 40, 32, 24, 16, 8, 0].map fun (shift : UInt64) => (w >>> shift).toUInt8

structure Prepared where
  sql : String
  arguments : List Argument
deriving DecidableEq, Repr

def binary : Client Prepared where
  sql := Prepared.sql
  arguments := Prepared.arguments
  bind := fun p a => { p with arguments := p.arguments ++ [a] }
  absent := none
  bool := fun b => some [if b then 1 else 0]
  int8 := fun n => some (bigEndian n.toUInt64)
  float8 := fun bits => some (bigEndian bits)
  text := fun s => some s.toUTF8.data.toList

def Prepared.bindAll (p : Prepared) (vs : List Scalar) : Prepared :=
  binary.bindAll p (vs.map Value.ofScalar)

end SqlMapper.Wire

import SqlMapper.Error
import SqlMapper.Fields
import SqlMapper.Naming
import SqlMapper.Scalar

/-!
Models: types whose values are kept in a table. A model's metadata follows the
naming conventions unless it declares names of its own, and its data is what is
written to the table. Names that begin with two underscores are reserved for the
templates of generated statements, so no field may have one.
-/

namespace SqlMapper

structure Metadata where
  primaryKey : String
  tableName : String
  /-- The column by which other tables refer to the model. -/
  relationKey : String
deriving DecidableEq, Repr

structure Model (α : Type) where
  key : String
  name : String
  primaryKey? : Option String
  tableName? : Option String
  relationKey? : Option String
  persist : α → Except ModelError (Fields Json)
  hydrate : Json → Except Record.Fault α

namespace Model

variable {α : Type}

def dataOfJson (model : String) (written : Except String Json) :
    Except ModelError (Fields Json) :=
  match written with
  | .ok (.obj members) => .ok (Fields.ofList members)
  | .ok _ => .error (.invalidData model .notAnObject)
  | .error reason => .error (.invalidData model (.other reason))

def defaultPrimaryKey : String := "id"

def metadata (m : Model α) : Metadata where
  primaryKey := m.primaryKey?.getD defaultPrimaryKey
  tableName := m.tableName?.getD (Naming.tableName m.name)
  relationKey := m.relationKey?.getD (Naming.relationKey m.name)

def metadataOf (m : Model α) (_ : α) : Metadata := m.metadata

/-- Names that generated statements use for themselves. -/
def isReserved (name : String) : Bool := name.toList.take 2 == ['_', '_']

def data (m : Model α) (a : α) : Except ModelError (Fields Json) := do
  let fields ← m.persist a
  match fields.keys.find? isReserved with
  | some field => throw (.reservedField m.name field)
  | none => return fields

/-- The scalar under the primary key; an absent or null one is none. -/
def keyValue (m : Model α) (info : Metadata) (fields : Fields Json) :
    Except ModelError (Option Scalar) :=
  match fields.get? info.primaryKey with
  | none => .ok none
  | some .null => .ok none
  | some v =>
    match Scalar.ofJson? v with
    | some s => .ok (some s)
    | none => .error (.invalidData m.name (.keyNotScalar info.primaryKey))

def requireKey (m : Model α) (info : Metadata) (fields : Fields Json) :
    Except ModelError Scalar := do
  match ← m.keyValue info fields with
  | some s => return s
  | none => throw (.missingPrimaryKey m.name info.primaryKey)

def isPersisted (m : Model α) (info : Metadata) (a : α) : Except ModelError Bool := do
  return (← m.keyValue info (← m.data a)).isSome

end Model

end SqlMapper

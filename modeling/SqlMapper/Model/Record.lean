import SqlMapper.Model.Basic
import SqlMapper.Record.Layout

/-!
Models whose values are JSON values: records of a layout, values written and read
as they are, and variations of a model in its names or in its data.
-/

namespace SqlMapper.Model

/-- The name of a model is the simple name of its type. Nothing differs from the
conventions, and the data is what the value is written as. -/
def ofType (path : String) (read : Json → Except Record.Fault Json)
    (write : Json → Except String Json) : Model Json :=
  let name := Naming.simpleName path
  { key := path
    name := name
    primaryKey? := none
    tableName? := none
    relationKey? := none
    persist := fun v => dataOfJson name (write v)
    hydrate := read }

def ofLayout (l : Record.Layout) : Model Json := ofType l.name l.read .ok

def untyped (key name : String) : Model Json :=
  { key := key
    name := name
    primaryKey? := none
    tableName? := none
    relationKey? := none
    persist := fun v => dataOfJson name (.ok v)
    hydrate := .ok }

variable {α : Type}

def withPrimaryKey (m : Model α) (name : Option String) : Model α := { m with primaryKey? := name }

def withTable (m : Model α) (name : Option String) : Model α := { m with tableName? := name }

def withRelationKey (m : Model α) (name : Option String) : Model α := { m with relationKey? := name }

def withData (m : Model α) (data : Fields Json) : Model α := { m with persist := fun _ => .ok data }

def withoutData (m : Model α) (reason : String) : Model α :=
  { m with persist := fun _ => .error (.invalidData m.name (.other reason)) }

end SqlMapper.Model

import SqlMapper.Record.Fault
import SqlMapper.Fields

/-!
Records read from JSON rows. A layout lists the fields of a record with their
shapes. An object gives the fields by name, in any order and with others among
them; a list gives them in the order of the layout. The value that is read is an
object with exactly the fields of the layout, absent optional ones being null.
-/

namespace SqlMapper.Record

inductive Shape where
  | whole
  | text
  | truth
  | list (item : Shape)
  | optional (item : Shape)
deriving DecidableEq, Repr

def Shape.isOptional : Shape → Bool
  | .optional _ => true
  | _ => false

def readWhole : Json → Except Fault Json
  | .num (.int n low high) =>
    if n < 0x8000000000000000 then .ok (.num (.int n low high))
    else .error (.value (.num (.int n low high)) .whole)
  | v => .error (.type v .whole)

def Shape.read : Shape → Json → Except Fault Json
  | .whole, v => readWhole v
  | .text, .str s => .ok (.str s)
  | .text, v => .error (.type v .text)
  | .truth, .bool b => .ok (.bool b)
  | .truth, v => .error (.type v .truth)
  | .list item, .arr items => (items.mapM item.read).map .arr
  | .list _, v => .error (.type v .sequence)
  | .optional _, .null => .ok .null
  | .optional item, v => item.read v

structure Layout where
  name : String
  fields : List (String × Shape)
deriving DecidableEq, Repr

namespace Layout

def readGiven (l : Layout) : List (String × Json) → Except Fault (List (String × Json))
  | [] => .ok []
  | (name, v) :: rest =>
    match Fields.lookup name l.fields with
    | none => l.readGiven rest
    | some shape => do
      let value ← shape.read v
      let values ← l.readGiven rest
      return (name, value) :: values

def complete (given : List (String × Json)) :
    List (String × Shape) → Except Fault (List (String × Json))
  | [] => .ok []
  | (name, shape) :: rest => do
    let value ← match Fields.lookup name given with
      | some v => .ok v
      | none => if shape.isOptional then .ok .null else .error (.missing name)
    let values ← complete given rest
    return (name, value) :: values

def readItems (l : Layout) : Nat → List (String × Shape) → List Json →
    Except Fault (List (String × Json))
  | _, [], _ => .ok []
  | i, _ :: _, [] => .error (.length i (.recordOf l.name l.fields.length))
  | i, (name, shape) :: fields, v :: items => do
    let value ← shape.read v
    let values ← l.readItems (i + 1) fields items
    return (name, value) :: values

def readEntries (l : Layout) : Json → Except Fault (List (String × Json))
  | .obj members => do complete (← l.readGiven members) l.fields
  | .arr items => do
    let entries ← l.readItems 0 l.fields items
    if l.fields.length < items.length then throw (.length items.length .fewerElements)
    else return entries
  | v => .error (.type v (.record l.name))

def read (l : Layout) (v : Json) : Except Fault Json :=
  (l.readEntries v).map fun entries => .obj (Fields.ofList entries).entries

end Layout

end SqlMapper.Record

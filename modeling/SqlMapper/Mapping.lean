import SqlMapper.Scalar
import SqlMapper.Fields
import SqlMapper.Error

/-!
Data for a template: under each identifier one scalar or an ordered list of
scalars. A mapping is read from a JSON object whose members are all scalars or
lists of scalars; otherwise the first offending member, in the order of the
members, is named.
-/

namespace SqlMapper

inductive Bindable where
  | one (value : Scalar)
  | many (values : List Scalar)
deriving DecidableEq, Inhabited

def scalarFor (identifier : String) (v : Json) : Except BindingError Scalar :=
  match Scalar.ofJson? v with
  | some s => .ok s
  | none => .error (.invalidValue identifier v.kind)

namespace Bindable

def values : Bindable → List Scalar
  | .one v => [v]
  | .many vs => vs

def ofJson (identifier : String) : Json → Except BindingError Bindable
  | .arr items => (items.mapM (scalarFor identifier)).map .many
  | v => (scalarFor identifier v).map .one

/-- A single scalar and a list of one are told apart. -/
def same : Bindable → Bindable → Bool
  | .one a, .one b => a.same b
  | .many a, .many b => a.length == b.length && (a.zip b).all fun p => p.1.same p.2
  | _, _ => false

end Bindable

abbrev Mapping := Fields Bindable

namespace Mapping

def readMembers (members : List (String × Json)) : Except BindingError (List (String × Bindable)) :=
  members.mapM fun m => (Bindable.ofJson m.1 m.2).map (m.1, ·)

def ofJson : Json → Except BindingError Mapping
  | .obj members => (readMembers members).map Fields.ofList
  | v => .error (.invalidValue "" v.kind)

def same (a b : Mapping) : Bool :=
  a.size == b.size &&
    (a.entries.zip b.entries).all fun p => p.1.1 == p.2.1 && p.1.2.same p.2.2

end Mapping

end SqlMapper

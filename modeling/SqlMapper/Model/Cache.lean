import SqlMapper.Model.Basic

/-!
The metadata cache. A model is resolved once; its entry keeps the name and the
metadata of that moment for good. Entries stand in the order in which their
models were first resolved and carry their place as a serial number.
-/

namespace SqlMapper

structure CacheEntry where
  serial : Nat
  key : String
  name : String
  metadata : Metadata
deriving DecidableEq, Repr

structure Cache where
  entries : List CacheEntry
deriving DecidableEq, Repr, Inhabited

namespace Cache

def empty : Cache := ⟨[]⟩

def size (c : Cache) : Nat := c.entries.length

def isEmpty (c : Cache) : Bool := c.entries.isEmpty

def find? (c : Cache) (key : String) : Option CacheEntry := c.entries.find? fun e => e.key == key

def entryFor {α : Type} (c : Cache) (m : Model α) : CacheEntry := ⟨c.size, m.key, m.name, m.metadata⟩

def resolve {α : Type} (c : Cache) (m : Model α) : CacheEntry × Cache :=
  match c.find? m.key with
  | some e => (e, c)
  | none => (c.entryFor m, ⟨c.entries ++ [c.entryFor m]⟩)

def resolveOf {α : Type} (c : Cache) (m : Model α) (_ : α) : CacheEntry × Cache := c.resolve m

/-- Metadata of the model first resolved under a name. -/
def byName (c : Cache) (name : String) : Except ModelError Metadata :=
  match c.entries.find? fun e => e.name == name with
  | some e => .ok e.metadata
  | none => .error (.unknownModel name)

end Cache

end SqlMapper

import SqlMapper.Connection.Exec
import SqlMapper.Model.Cache
import SqlMapper.Settings
import SqlMapper.Statement

/-!
Operations on models and what each of them asks for. Planning an operation finds
the metadata of its models, reads the data of a value, and ends in an answer, in
one statement for one of the two connections, or in an error. Reading goes to the
reader and writing to the writer.
-/

namespace SqlMapper

inductive Plan (α : Type) where
  | answer (a : α)
  /-- One statement, whose outcome decides the result. -/
  | send (side : Side) (query : Query) (finish : Outcome → Except Error α)

inductive Operation : Type → Type 1 where
  | query (template : String) (data : Mapping) : Operation Outcome
  | execute (template : String) (data : Mapping) : Operation Outcome
  | create {α : Type} (m : Model α) (a : α) : Operation (Option Scalar)
  | update {α : Type} (m : Model α) (a : α) : Operation Bool
  | save {α : Type} (m : Model α) (a : α) : Operation (Option Scalar)
  | delete {α : Type} (m : Model α) (a : α) : Operation Bool
  | isPersisted {α : Type} (m : Model α) (a : α) : Operation Bool
  | findOne {α : Type} (m : Model α) (id : Scalar) : Operation (Option α)
  | findFirst {α : Type} (m : Model α) : Operation (Option α)
  | findAll {α : Type} (m : Model α) : Operation (List α)
  | findWhere {α : Type} (m : Model α) (template : String) (data : Mapping) : Operation (List α)
  | belongsTo {α β : Type} (child : Model α) (parent : Model β) (a : α) : Operation (Option β)
  | hasOne {α β : Type} (parent : Model α) (child : Model β) (a : α) : Operation (Option β)
  | hasMany {α β : Type} (parent : Model α) (child : Model β) (a : α) : Operation (List β)

/-- Planning may fail, and fills the metadata cache as it goes. -/
abbrev Planning := ExceptT Error (StateM Cache)

namespace Planning

variable {α β : Type}

/-- Metadata, by way of the cache if the settings say so. -/
def info (settings : Settings) (m : Model α) : Planning Metadata :=
  if settings.cacheMetadata then do
    let (entry, cache) := (← get).resolve m
    set cache
    return entry.metadata
  else return m.metadata

def lift : Except Error α → Planning α
  | .ok a => return a
  | .error e => throw e

def data (m : Model α) (a : α) : Planning (Fields Json) := lift (liftModel (m.data a))

def send (side : Side) (query : Except Error Query) (finish : Outcome → Except Error α) :
    Planning (Plan α) := do
  return .send side (← lift query) finish

end Planning

/-- Every row as a value; the first one that cannot be read is the error. -/
def hydrateAll {α : Type} (m : Model α) (o : Outcome) : Except Error (List α) :=
  (o.rows.mapM m.hydrate).mapError .hydration

def hydrateFirst {α : Type} (m : Model α) (o : Outcome) : Except Error (Option α) :=
  match o.rows with
  | [] => .ok none
  | row :: _ => (m.hydrate row).map some |>.mapError .hydration

namespace Operation

open Planning

variable {α β : Type}

def created (info : Metadata) (o : Outcome) : Except Error (Option Scalar) :=
  if o.success then .ok o.lastInsertId
  else .error (.driver ("insert into " ++ info.tableName ++ " was not successful"))

def updated (info : Metadata) (id : Scalar) (o : Outcome) : Except Error (Option Scalar) :=
  if o.success then .ok (some id)
  else .error (.driver ("update of " ++ info.tableName ++ " was not successful"))

def planCreate (s : Settings) (m : Model α) (a : α) : Planning (Plan (Option Scalar)) := do
  let info ← info s m
  let fields ← data m a
  send .writer (Statement.insert s.placeholder m.name info fields) (created info)

def planSave (s : Settings) (m : Model α) (a : α) : Planning (Plan (Option Scalar)) := do
  let info ← info s m
  let fields ← data m a
  match ← lift (liftModel (m.keyValue info fields)) with
  | some id =>
    send .writer (Statement.update s.placeholder m.name info fields id) (updated info id)
  | none => planCreate s m a

def planUpdate (s : Settings) (m : Model α) (a : α) : Planning (Plan Bool) := do
  let info ← info s m
  let fields ← data m a
  let id ← lift (liftModel (m.requireKey info fields))
  send .writer (Statement.update s.placeholder m.name info fields id) fun o => .ok o.success

def planDelete (s : Settings) (m : Model α) (a : α) : Planning (Plan Bool) := do
  let info ← info s m
  let fields ← data m a
  let id ← lift (liftModel (m.requireKey info fields))
  send .writer (Statement.delete s.placeholder m.name info id) fun o => .ok o.success

def planIsPersisted (s : Settings) (m : Model α) (a : α) : Planning (Plan Bool) := do
  let info ← info s m
  return .answer (← lift (liftModel (m.isPersisted info a)))

def planFindOne (s : Settings) (m : Model α) (id : Scalar) : Planning (Plan (Option α)) := do
  let info ← info s m
  send .reader (Statement.selectByKey s.placeholder m.name info id) (hydrateFirst m)

def planFindFirst (s : Settings) (m : Model α) : Planning (Plan (Option α)) := do
  let info ← info s m
  send .reader (Statement.selectAll s.placeholder info (some 1)) (hydrateFirst m)

def planFindAll (s : Settings) (m : Model α) : Planning (Plan (List α)) := do
  let info ← info s m
  send .reader (Statement.selectAll s.placeholder info none) (hydrateAll m)

def planFindWhere (s : Settings) (m : Model α) (template : String) (data : Mapping) :
    Planning (Plan (List α)) := do
  let info ← info s m
  send .reader (Statement.selectWhere s.placeholder info template data) (hydrateAll m)

/-- The value a child holds under its parent's relation key; an absent or null
one is none. -/
def foreignKey (child : Model α) (key : String) (fields : Fields Json) :
    Except Error (Option Scalar) :=
  match fields.get? key with
  | none => .ok none
  | some .null => .ok none
  | some v =>
    match Scalar.ofJson? v with
    | some s => .ok (some s)
    | none => .error (.model (.invalidData child.name (.foreignKeyNotScalar key)))

def planBelongsTo (s : Settings) (child : Model α) (parent : Model β) (a : α) :
    Planning (Plan (Option β)) := do
  let info ← info s parent
  let fields ← data child a
  match ← lift (foreignKey child info.relationKey fields) with
  | none => return .answer none
  | some id => planFindOne s parent id

def planChildren {γ : Type} (s : Settings) (parent : Model α) (child : Model β) (a : α)
    (limit : Option Nat) (finish : Outcome → Except Error γ) : Planning (Plan γ) := do
  let parentInfo ← info s parent
  let childInfo ← info s child
  let fields ← data parent a
  let id ← lift (liftModel (parent.requireKey parentInfo fields))
  send .reader
    (Statement.selectByColumn s.placeholder child.name childInfo parentInfo.relationKey id limit)
    finish

def plan (s : Settings) : {α : Type} → Operation α → Planning (Plan α)
  | _, .query template data =>
    send .reader (liftBinding (Binding.bind s.placeholder template data)) .ok
  | _, .execute template data =>
    send .writer (liftBinding (Binding.bind s.placeholder template data)) .ok
  | _, .create m a => planCreate s m a
  | _, .update m a => planUpdate s m a
  | _, .save m a => planSave s m a
  | _, .delete m a => planDelete s m a
  | _, .isPersisted m a => planIsPersisted s m a
  | _, .findOne m id => planFindOne s m id
  | _, .findFirst m => planFindFirst s m
  | _, .findAll m => planFindAll s m
  | _, .findWhere m template data => planFindWhere s m template data
  | _, .belongsTo child parent a => planBelongsTo s child parent a
  | _, .hasOne parent child a => planChildren s parent child a (some 1) (hydrateFirst child)
  | _, .hasMany parent child a => planChildren s parent child a none (hydrateAll child)

end Operation

end SqlMapper

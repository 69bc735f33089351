import SqlMapper.Proofs.Planning

/-!
Operations in phases. An operation takes the data of its value, looks a key up in that
data, and makes a statement of them, all under the metadata of its models; whatever
fails first is its error. Without a statement it has its answer by itself. What is
planned is what these phases ask for, on the side of the operation (`asked_decided`).
-/

namespace SqlMapper

variable {σ α β γ : Type}

namespace Cache

theorem find?_resolve_of_find? {c : Cache} {key : String} {e : CacheEntry} (h : c.find? key = some e)
    (m : Model α) : (c.resolve m).2.find? key = some e := by
  rw [resolve]
  split
  · exact h
  · have kept : c.entries.find? (fun e => e.key == key) = some e := h
    show (c.entries ++ [c.entryFor m]).find? (fun e => e.key == key) = some e
    rw [List.find?_append, kept]
    rfl

theorem resolve_resolve_of_resolve (c : Cache) (m : Model α) (m' : Model β) :
    (((c.resolve m).2.resolve m').2.resolve m).1 = (c.resolve m).1 := by
  have found := find?_resolve_of_find? (c.find?_resolve m) m'
  rw [resolve, found]

end Cache

namespace Planning

theorem found_of_found (s : Settings) (c : Cache) (m : Model α) (m' : Model β) :
    (found s (found s (found s c m).2 m').2 m).1 = (found s c m).1 := by
  unfold found
  split
  · rw [Cache.resolve_resolve_of_resolve]
  · rfl

end Planning

abbrev Lookups := {β : Type} → Model β → Metadata

def Plan.asked : Plan α → Option (Side × Query)
  | .answer _ => none
  | .send side q _ => some (side, q)

namespace Operation

open Planning

def side? : {α : Type} → Operation α → Option Side
  | _, .query .. | _, .findOne .. | _, .findFirst .. | _, .findAll .. | _, .findWhere ..
  | _, .belongsTo .. | _, .hasOne .. | _, .hasMany .. => some .reader
  | _, .execute .. | _, .create .. | _, .update .. | _, .save .. | _, .delete .. => some .writer
  | _, .isPersisted .. => none

def extracted : {α : Type} → Operation α → Except ModelError (Fields Json)
  | _, .create m a | _, .update m a | _, .save m a | _, .delete m a | _, .isPersisted m a => m.data a
  | _, .belongsTo child _ a => child.data a
  | _, .hasOne parent _ a | _, .hasMany parent _ a => parent.data a
  | _, _ => .ok .empty

def key (info : Lookups) (fields : Fields Json) :
    {α : Type} → Operation α → Except Error (Option Scalar)
  | _, .update m _ | _, .delete m _ => (liftModel (m.requireKey (info m) fields)).map some
  | _, .save m _ | _, .isPersisted m _ => liftModel (m.keyValue (info m) fields)
  | _, .findOne _ id => .ok (some id)
  | _, .belongsTo child parent _ => foreignKey child (info parent).relationKey fields
  | _, .hasOne parent _ _ | _, .hasMany parent _ _ =>
    (liftModel (parent.requireKey (info parent) fields)).map some
  | _, _ => .ok none

def statement (style : PlaceholderStyle) (info : Lookups) (fields : Fields Json)
    (key : Option Scalar) : {α : Type} → Operation α → Option (Except Error Query)
  | _, .query template data | _, .execute template data =>
    some (liftBinding (Binding.bind style template data))
  | _, .create m _ => some (Statement.insert style m.name (info m) fields)
  | _, .update m _ => key.map (Statement.update style m.name (info m) fields)
  | _, .save m _ =>
    match key with
    | some id => some (Statement.update style m.name (info m) fields id)
    | none => some (Statement.insert style m.name (info m) fields)
  | _, .delete m _ => key.map (Statement.delete style m.name (info m))
  | _, .isPersisted .. => none
  | _, .findOne m _ => key.map (Statement.selectByKey style m.name (info m))
  | _, .findFirst m => some (Statement.selectAll style (info m) (some 1))
  | _, .findAll m => some (Statement.selectAll style (info m) none)
  | _, .findWhere m template data => some (Statement.selectWhere style (info m) template data)
  | _, .belongsTo _ parent _ => key.map (Statement.selectByKey style parent.name (info parent))
  | _, .hasOne parent child _ => key.map fun id =>
    Statement.selectByColumn style child.name (info child) (info parent).relationKey id (some 1)
  | _, .hasMany parent child _ => key.map fun id =>
    Statement.selectByColumn style child.name (info child) (info parent).relationKey id none

def ready : Option (Except Error Query) → Except Error (Option Query)
  | none => .ok none
  | some r => r.map some

def asked (style : PlaceholderStyle) (info : Lookups) (op : Operation α) :
    Except Error (Option Query) := do
  let fields ← liftModel op.extracted
  let key ← op.key info fields
  ready (op.statement style info fields key)

def isPersistedWith (m : Model α) (a : α) (info : Metadata) : Except Error (Plan Bool) := do
  let persisted ← liftModel (m.isPersisted info a)
  .ok (.answer persisted)

def readWith (select : Metadata → Except Error Query) (finish : Outcome → Except Error α)
    (info : Metadata) : Except Error (Plan α) := do
  let q ← select info
  .ok (.send .reader q finish)

def decided (s : Settings) (info : Lookups) : {α : Type} → Operation α → Except Error (Plan α)
  | _, .query template data => do
    let q ← liftBinding (Binding.bind s.placeholder template data)
    .ok (.send .reader q .ok)
  | _, .execute template data => do
    let q ← liftBinding (Binding.bind s.placeholder template data)
    .ok (.send .writer q .ok)
  | _, .create m a => createWith s m a (info m)
  | _, .update m a => updateWith s m a (info m)
  | _, .save m a => saveWith s m a (info m)
  | _, .delete m a => deleteWith s m a (info m)
  | _, .isPersisted m a => isPersistedWith m a (info m)
  | _, .findOne m id => findOneWith s m id (info m)
  | _, .findFirst m => readWith (Statement.selectAll s.placeholder · (some 1)) (hydrateFirst m) (info m)
  | _, .findAll m => readWith (Statement.selectAll s.placeholder · none) (hydrateAll m) (info m)
  | _, .findWhere m template data =>
    readWith (Statement.selectWhere s.placeholder · template data) (hydrateAll m) (info m)
  | _, .belongsTo child parent a => belongsToWith s child parent a (info parent)
  | _, .hasOne parent child a =>
    childrenWith s parent child a (some 1) (hydrateFirst child) (info parent) (info child)
  | _, .hasMany parent child a =>
    childrenWith s parent child a none (hydrateAll child) (info parent) (info child)

def cacheAfter (s : Settings) (c : Cache) : {α : Type} → Operation α → Cache
  | _, .query .. | _, .execute .. => c
  | _, .create m _ | _, .update m _ | _, .save m _ | _, .delete m _ | _, .isPersisted m _
  | _, .findOne m _ | _, .findFirst m | _, .findAll m | _, .findWhere m _ _ => (found s c m).2
  | _, .belongsTo _ parent _ => (found s c parent).2
  | _, .hasOne parent child _ | _, .hasMany parent child _ =>
    (found s (found s c parent).2 child).2

theorem eval_planIsPersisted (s : Settings) (m : Model α) (a : α) (c : Cache) :
    (planIsPersisted s m a).eval c = (isPersistedWith m a (found s c m).1, (found s c m).2) := by
  rw [planIsPersisted, eval_info_bind]
  exact eval_lift_bind fun persisted => eval_pure _ _

theorem eval_read (s : Settings) (m : Model α) (select : Metadata → Except Error Query)
    (finish : Outcome → Except Error β) (c : Cache) :
    (info s m >>= fun info => send .reader (select info) finish).eval c =
      (readWith select finish (found s c m).1, (found s c m).2) := by
  rw [eval_info_bind]
  exact eval_send ..

section Settled

variable {s : Settings} {c : Cache} {p : Planning (Plan γ)}

theorem eval_settled {m : Model α} (f : Metadata → Except Error (Plan γ))
    (h : p.eval c = (f (found s c m).1, (found s c m).2)) :
    p.eval c = (f (found s (found s c m).2 m).1, (found s c m).2) := by
  rw [found_found, h]

theorem eval_settled_pair {m : Model α} {m' : Model β}
    (f : Metadata → Metadata → Except Error (Plan γ))
    (h : p.eval c = (f (found s c m).1 (found s (found s c m).2 m').1,
      (found s (found s c m).2 m').2)) :
    p.eval c = (f (found s (found s (found s c m).2 m').2 m).1
      (found s (found s (found s c m).2 m').2 m').1, (found s (found s c m).2 m').2) := by
  rw [found_of_found, found_found, h]

end Settled

/-- Planning finds the metadata of the models, and all else is decided by that. -/
theorem eval_plan_eq (s : Settings) (c : Cache) (op : Operation α) :
    (op.plan s).eval c =
      (op.decided s fun m => (found s (op.cacheAfter s c) m).1, op.cacheAfter s c) := by
  cases op with
  | query template data => exact eval_send ..
  | execute template data => exact eval_send ..
  | create m a => exact eval_settled (createWith s m a) (eval_planCreate ..)
  | update m a => exact eval_settled (updateWith s m a) (eval_planUpdate ..)
  | save m a => exact eval_settled (saveWith s m a) (eval_planSave ..)
  | delete m a => exact eval_settled (deleteWith s m a) (eval_planDelete ..)
  | isPersisted m a => exact eval_settled (isPersistedWith m a) (eval_planIsPersisted ..)
  | findOne m id => exact eval_settled (findOneWith s m id) (eval_planFindOne ..)
  | findFirst m => exact eval_settled (readWith _ _) (eval_read ..)
  | findAll m => exact eval_settled (readWith _ _) (eval_read ..)
  | findWhere m template data => exact eval_settled (readWith _ _) (eval_read ..)
  | belongsTo child parent a =>
    exact eval_settled (belongsToWith s child parent a) (eval_planBelongsTo ..)
  | hasOne parent child a =>
    exact eval_settled_pair (childrenWith s parent child a (some 1) (hydrateFirst child))
      (eval_planChildren ..)
  | hasMany parent child a =>
    exact eval_settled_pair (childrenWith s parent child a none (hydrateAll child))
      (eval_planChildren ..)

/-- What is planned is what the phases ask for, on the side of the operation. -/
theorem asked_decided (s : Settings) (info : Lookups) (op : Operation α) :
    (op.decided s info).map Plan.asked =
      (op.asked s.placeholder info).map fun q => q.bind fun q => op.side?.map (·, q) := by
  cases op with
  | save m a =>
    simp only [decided, saveWith, createWith, asked, extracted, key]
    cases liftModel (m.data a) with
    | error e => rfl
    | ok fields =>
      simp only [ok_bind]
      cases liftModel (m.keyValue (info m) fields) with
      | error e => rfl
      | ok id =>
        cases id <;>
          simp only [statement, ready, side?, map_eq_bind, bind_assoc, ok_bind, Plan.asked,
            Option.bind_some, Option.map_some]
  | isPersisted m a =>
    simp only [decided, isPersistedWith, Model.isPersisted, asked, extracted, key, statement, ready,
      map_eq_bind, bind_assoc, liftModel_bind, ok_bind]
    rfl
  | belongsTo child parent a =>
    simp only [decided, belongsToWith, findOneWith, asked, extracted, key]
    cases liftModel (child.data a) with
    | error e => rfl
    | ok fields =>
      simp only [ok_bind]
      cases foreignKey child (info parent).relationKey fields with
      | error e => rfl
      | ok id =>
        cases id <;>
          simp only [statement, ready, side?, map_eq_bind, bind_assoc, ok_bind, Plan.asked,
            Option.bind_some, Option.map_some, Option.map_none, Option.bind_none]
  | _ =>
    simp only [decided, createWith, updateWith, deleteWith, findOneWith, readWith, childrenWith,
      asked, extracted, key, statement, ready, side?, map_eq_bind, bind_assoc, ok_bind, liftModel_ok,
      Plan.asked, Option.bind_some, Option.map_some]

end Operation

end SqlMapper

import SqlMapper.Orm.Session
import SqlMapper.Proofs.Result

/-!
Planning in two parts. First the metadata of the models is found, which is all
that touches the cache; what is decided then depends on the metadata alone. A
mapper that finishes a plan runs nothing or hands one statement to one of its
connections.
-/

namespace SqlMapper

variable {σ α β γ : Type}

namespace Cache

theorem find?_resolve (c : Cache) (m : Model α) :
    (c.resolve m).2.find? m.key = some (c.resolve m).1 := by
  rw [resolve]
  split
  · rename_i e he
    exact he
  · rename_i hnone
    show (c.entries ++ [c.entryFor m]).find? (fun e => e.key == m.key) = some (c.entryFor m)
    have fresh : c.entries.find? (fun e => e.key == m.key) = none := hnone
    rw [List.find?_append, fresh]
    simp [entryFor]

theorem resolve_resolve (c : Cache) (m : Model α) : (c.resolve m).2.resolve m = c.resolve m := by
  have found := c.find?_resolve m
  generalize c.resolve m = r at found
  rw [resolve, found]

end Cache

namespace Planning

def found (s : Settings) (c : Cache) (m : Model α) : Metadata × Cache :=
  if s.cacheMetadata then ((c.resolve m).1.metadata, (c.resolve m).2) else (m.metadata, c)

theorem found_found (s : Settings) (c : Cache) (m : Model α) :
    found s (found s c m).2 m = found s c m := by
  unfold found
  split
  · rw [Cache.resolve_resolve]
  · rfl

def eval (p : Planning α) (c : Cache) : Except Error α × Cache := p.run.run c

theorem eval_info_bind (s : Settings) (m : Model α) (f : Metadata → Planning β) (c : Cache) :
    (info s m >>= f).eval c = (f (found s c m).1).eval (found s c m).2 := by
  unfold info found
  split <;> rfl

theorem eval_lift_bind {r : Except Error α} {f : α → Planning β} {g : α → Except Error β}
    {c : Cache} (h : ∀ a, (f a).eval c = (g a, c)) : (lift r >>= f).eval c = (r >>= g, c) := by
  cases r with
  | error e => rfl
  | ok a => exact h a

theorem eval_pure (a : α) (c : Cache) : (pure a : Planning α).eval c = (.ok a, c) := rfl

theorem eval_send (side : Side) (r : Except Error Query) (finish : Outcome → Except Error α)
    (c : Cache) :
    (send side r finish).eval c = (r >>= fun q => .ok (.send side q finish), c) :=
  eval_lift_bind fun _ => eval_pure _ c

end Planning

def Sends (side : Side) (q : Query) (planned : Except Error (Plan α)) : Prop :=
  ∃ finish, planned = .ok (.send side q finish)

section Sends

variable {side side' : Side} {q q' : Query}

theorem sends_bind {r : Except Error β} {f : β → Except Error (Plan α)} :
    Sends side q (r >>= f) ↔ ∃ b, r = .ok b ∧ Sends side q (f b) := by
  unfold Sends
  simp only [bind_eq_ok_iff]
  grind

theorem sends_send {finish : Outcome → Except Error α} :
    Sends side q (.ok (.send side' q' finish)) ↔ side = side' ∧ q = q' := by
  refine ⟨fun h => ?_, fun h => ⟨finish, by rw [h.1, h.2]⟩⟩
  obtain ⟨finish', h⟩ := h
  cases h
  exact ⟨rfl, rfl⟩

theorem not_sends_answer {a : α} : ¬ Sends side q (.ok (.answer a)) := nofun

theorem not_sends_error {e : Error} : ¬ Sends (α := α) side q (.error e) := nofun

theorem sends_query {r : Except Error Query} {finish : Outcome → Except Error α} :
    Sends side q (r >>= fun q => .ok (.send side' q finish)) ↔ side = side' ∧ r = .ok q := by
  rw [sends_bind]
  simp only [sends_send]
  grind

theorem finish_of_query {r : Except Error Query} {finish finish' : Outcome → Except Error α}
    (h : (r >>= fun q => .ok (.send side' q finish')) = Except.ok (Plan.send side q finish)) :
    finish = finish' := by
  obtain ⟨q', -, h⟩ := bind_eq_ok_iff.1 h
  cases h
  rfl

end Sends

namespace Operation

open Planning

def createWith (s : Settings) (m : Model α) (a : α) (info : Metadata) :
    Except Error (Plan (Option Scalar)) := do
  let fields ← liftModel (m.data a)
  let q ← Statement.insert s.placeholder m.name info fields
  .ok (.send .writer q (created info))

def saveWith (s : Settings) (m : Model α) (a : α) (info : Metadata) :
    Except Error (Plan (Option Scalar)) := do
  let fields ← liftModel (m.data a)
  match ← liftModel (m.keyValue info fields) with
  | some id => do
    let q ← Statement.update s.placeholder m.name info fields id
    .ok (.send .writer q (updated info id))
  | none => createWith s m a info

def updateWith (s : Settings) (m : Model α) (a : α) (info : Metadata) : Except Error (Plan Bool) := do
  let fields ← liftModel (m.data a)
  let id ← liftModel (m.requireKey info fields)
  let q ← Statement.update s.placeholder m.name info fields id
  .ok (.send .writer q fun o => .ok o.success)

def deleteWith (s : Settings) (m : Model α) (a : α) (info : Metadata) : Except Error (Plan Bool) := do
  let fields ← liftModel (m.data a)
  let id ← liftModel (m.requireKey info fields)
  let q ← Statement.delete s.placeholder m.name info id
  .ok (.send .writer q fun o => .ok o.success)

def findOneWith (s : Settings) (m : Model α) (id : Scalar) (info : Metadata) :
    Except Error (Plan (Option α)) := do
  let q ← Statement.selectByKey s.placeholder m.name info id
  .ok (.send .reader q (hydrateFirst m))

def belongsToWith (s : Settings) (child : Model α) (parent : Model β) (a : α) (info : Metadata) :
    Except Error (Plan (Option β)) := do
  let fields ← liftModel (child.data a)
  match ← foreignKey child info.relationKey fields with
  | none => .ok (.answer none)
  | some id => findOneWith s parent id info

def childrenWith (s : Settings) (parent : Model α) (child : Model β) (a : α) (limit : Option Nat)
    (finish : Outcome → Except Error γ) (parentInfo childInfo : Metadata) :
    Except Error (Plan γ) := do
  let fields ← liftModel (parent.data a)
  let id ← liftModel (parent.requireKey parentInfo fields)
  let q ← Statement.selectByColumn s.placeholder child.name childInfo parentInfo.relationKey id limit
  .ok (.send .reader q finish)

theorem eval_planCreate (s : Settings) (m : Model α) (a : α) (c : Cache) :
    (planCreate s m a).eval c = (createWith s m a (found s c m).1, (found s c m).2) := by
  rw [planCreate, eval_info_bind]
  exact eval_lift_bind fun fields => eval_send _ _ _ _

theorem eval_planSave (s : Settings) (m : Model α) (a : α) (c : Cache) :
    (planSave s m a).eval c = (saveWith s m a (found s c m).1, (found s c m).2) := by
  rw [planSave, eval_info_bind]
  refine eval_lift_bind fun fields => eval_lift_bind fun key => ?_
  cases key with
  | some id => exact eval_send _ _ _ _
  | none =>
    -- the insertion looks for the metadata again and finds the same
    show (planCreate s m a).eval (found s c m).2 = _
    rw [eval_planCreate, found_found]

theorem eval_planUpdate (s : Settings) (m : Model α) (a : α) (c : Cache) :
    (planUpdate s m a).eval c = (updateWith s m a (found s c m).1, (found s c m).2) := by
  rw [planUpdate, eval_info_bind]
  exact eval_lift_bind fun fields => eval_lift_bind fun id => eval_send _ _ _ _

theorem eval_planDelete (s : Settings) (m : Model α) (a : α) (c : Cache) :
    (planDelete s m a).eval c = (deleteWith s m a (found s c m).1, (found s c m).2) := by
  rw [planDelete, eval_info_bind]
  exact eval_lift_bind fun fields => eval_lift_bind fun id => eval_send _ _ _ _

theorem eval_planFindOne (s : Settings) (m : Model α) (id : Scalar) (c : Cache) :
    (planFindOne s m id).eval c = (findOneWith s m id (found s c m).1, (found s c m).2) := by
  rw [planFindOne, eval_info_bind]
  exact eval_send _ _ _ _

theorem eval_planBelongsTo (s : Settings) (child : Model α) (parent : Model β) (a : α) (c : Cache) :
    (planBelongsTo s child parent a).eval c =
      (belongsToWith s child parent a (found s c parent).1, (found s c parent).2) := by
  rw [planBelongsTo, eval_info_bind]
  refine eval_lift_bind fun fields => eval_lift_bind fun key => ?_
  cases key with
  | none => rfl
  | some id =>
    show (planFindOne s parent id).eval (found s c parent).2 = _
    rw [eval_planFindOne, found_found]

theorem eval_planChildren (s : Settings) (parent : Model α) (child : Model β) (a : α)
    (limit : Option Nat) (finish : Outcome → Except Error γ) (c : Cache) :
    (planChildren s parent child a limit finish).eval c =
      (childrenWith s parent child a limit finish (found s c parent).1
        (found s (found s c parent).2 child).1, (found s (found s c parent).2 child).2) := by
  rw [planChildren, eval_info_bind, eval_info_bind]
  exact eval_lift_bind fun fields => eval_lift_bind fun id => eval_send _ _ _ _

def sent (s : Settings) (c : Cache) (op : Operation α) : Option (Side × Query) :=
  match (op.plan s).eval c with
  | (.ok (.send side q _), _) => some (side, q)
  | _ => none

theorem sent_eq_some_iff {s : Settings} {c : Cache} {op : Operation α} {side : Side} {q : Query} :
    op.sent s c = some (side, q) ↔ Sends side q ((op.plan s).eval c).1 := by
  rw [sent]
  generalize (op.plan s).eval c = result
  obtain ⟨planned, c'⟩ := result
  cases planned with
  | error e => exact iff_of_false nofun not_sends_error
  | ok plan =>
    cases plan with
    | answer a => exact iff_of_false nofun not_sends_answer
    | send side' q' finish =>
      rw [sends_send]
      simp [eq_comm]

end Operation

def Orm.metadata (o : Orm σ) (w : World σ) (m : Model α) : Metadata :=
  (Planning.found o.settings w.cache m).1

namespace Orm

open Planning

theorem perform_eq (o : Orm σ) (op : Operation α) (w : World σ) :
    o.perform op w =
      match (op.plan o.settings).eval w.cache with
      | (.ok plan, c) => World.lift (o.finish plan) { w with cache := c }
      | (.error e, c) => ⟨.error e, { w with cache := c }, []⟩ := by
  have start : (op.plan o.settings).eval w.cache = (op.plan o.settings).run.run w.cache := rfl
  rw [start]
  unfold perform
  generalize hrun : (op.plan o.settings).run.run w.cache = r
  obtain ⟨planned, c⟩ := r
  show (_ : Ran (World σ) (Except Error α)) = _
  simp only [Exec.bind_run, Exec.get, hrun]
  cases planned <;> rfl

theorem perform_of_sent_eq_none {o : Orm σ} {op : Operation α} {w : World σ}
    (h : op.sent o.settings w.cache = none) :
    (o.perform op w).notes = [] ∧ (o.perform op w).state.state = w.state := by
  rw [Operation.sent] at h
  rw [perform_eq]
  generalize (op.plan o.settings).eval w.cache = result at h
  obtain ⟨planned, c⟩ := result
  cases planned with
  | error e => exact ⟨rfl, rfl⟩
  | ok plan =>
    cases plan with
    | answer a => exact ⟨rfl, rfl⟩
    | send side q finish => cases h

theorem finish_send (o : Orm σ) (side : Side) (q : Query) (finish : Outcome → Except Error α)
    (s : σ) :
    o.finish (.send side q finish) s =
      ⟨((o.connection side).execute q s).value >>= finish, ((o.connection side).execute q s).state,
        ((o.connection side).execute q s).notes⟩ := by
  rw [Orm.finish, Exec.bind_run]
  cases ((o.connection side).execute q s).value <;>
    simp only [Exec.pure_run, List.append_nil, ok_bind, error_bind]

/-- An operation that sends a statement runs that one, on the connection of its
side, and nothing else. -/
theorem perform_of_sent_eq_some {o : Orm σ} {op : Operation α} {w : World σ} {side : Side}
    {q : Query} (h : op.sent o.settings w.cache = some (side, q)) :
    (o.perform op w).notes = ((o.connection side).execute q w.state).notes ∧
      (o.perform op w).state.state = ((o.connection side).execute q w.state).state := by
  obtain ⟨finish, hplan⟩ := Operation.sent_eq_some_iff.1 h
  rw [perform_eq]
  generalize (op.plan o.settings).eval w.cache = result at hplan
  obtain ⟨planned, c⟩ := result
  rw [show planned = _ from hplan]
  simp only [World.lift, Exec.onPart, finish_send, and_self]

end Orm

end SqlMapper

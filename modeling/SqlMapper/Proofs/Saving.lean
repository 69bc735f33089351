import SqlMapper.Model.Record
import SqlMapper.Proofs.Separation
import SqlMapper.Proofs.Writing

/-!
Whether a value is kept, and how it is written. Asking whether a value is persisted,
updating, deleting and saving it all read its data and the key in it first
(`Model.dataWithKey`), and what they do is decided by what was read: an error, no key, or
a key. So the answer to the question tells how the writes go (`persistence_agrees`).
-/

namespace SqlMapper

variable {σ α γ : Type}

namespace Model

def dataWithKey (m : Model α) (info : Metadata) (a : α) :
    Except ModelError (Fields Json × Option Scalar) := do
  let fields ← m.data a
  let key ← m.keyValue info fields
  return (fields, key)

theorem dataWithKey_eq_ok_iff {m : Model α} {info : Metadata} {a : α} {fields : Fields Json}
    {key : Option Scalar} :
    m.dataWithKey info a = .ok (fields, key) ↔
      m.data a = .ok fields ∧ m.keyValue info fields = .ok key := by
  rw [dataWithKey, bind_eq_ok_iff]
  constructor
  · intro h
    obtain ⟨read, data, h⟩ := h
    obtain ⟨found, value, h⟩ := bind_eq_ok_iff.1 h
    cases h
    exact ⟨data, value⟩
  · intro h
    exact ⟨fields, h.1, bind_eq_ok_iff.2 ⟨key, h.2, rfl⟩⟩

theorem isPersisted_eq (m : Model α) (info : Metadata) (a : α) :
    m.isPersisted info a = (m.dataWithKey info a).map fun found => found.2.isSome := by
  rw [isPersisted, dataWithKey]
  cases m.data a with
  | error e => rfl
  | ok fields =>
    simp only [ok_bind]
    cases m.keyValue info fields <;> rfl

section IsPersisted

variable {m : Model α} {info : Metadata} {a : α}

theorem isPersisted_eq_error_iff {e : ModelError} :
    m.isPersisted info a = .error e ↔ m.dataWithKey info a = .error e := by
  rw [isPersisted_eq, map_eq_error_iff]

theorem exists_data_of_not_persisted (h : m.isPersisted info a = .ok false) :
    ∃ fields, m.dataWithKey info a = .ok (fields, none) := by
  rw [isPersisted_eq, map_eq_bind] at h
  obtain ⟨⟨fields, key⟩, read, h⟩ := bind_eq_ok_iff.1 h
  cases key with
  | none => exact ⟨fields, read⟩
  | some id => cases h

theorem exists_key_of_persisted (h : m.isPersisted info a = .ok true) :
    ∃ fields id, m.dataWithKey info a = .ok (fields, some id) := by
  rw [isPersisted_eq, map_eq_bind] at h
  obtain ⟨⟨fields, key⟩, read, h⟩ := bind_eq_ok_iff.1 h
  cases key with
  | none => cases h
  | some id => exact ⟨fields, id, read⟩

end IsPersisted

theorem bind_requireKey (m : Model α) (info : Metadata) (a : α)
    (f : Fields Json → Scalar → Except Error γ) :
    (liftModel (m.data a) >>= fun fields => liftModel (m.requireKey info fields) >>= f fields) =
      liftModel (m.dataWithKey info a) >>= fun found =>
        match found.2 with
        | some id => f found.1 id
        | none => .error (.model (.missingPrimaryKey m.name info.primaryKey)) := by
  rw [dataWithKey]
  cases m.data a with
  | error e => rfl
  | ok fields =>
    simp only [liftModel_ok, ok_bind, requireKey]
    cases m.keyValue info fields with
    | error e => rfl
    | ok key => cases key <;> rfl

end Model

namespace Operation

variable (s : Settings) (m : Model α) (a : α) (info : Metadata)

theorem updateWith_eq :
    updateWith s m a info = liftModel (m.dataWithKey info a) >>= fun found =>
      match found.2 with
      | some id => Statement.update s.placeholder m.name info found.1 id >>= fun q =>
        .ok (.send .writer q fun o => .ok o.success)
      | none => .error (.model (.missingPrimaryKey m.name info.primaryKey)) :=
  m.bind_requireKey info a _

theorem deleteWith_eq :
    deleteWith s m a info = liftModel (m.dataWithKey info a) >>= fun found =>
      match found.2 with
      | some id => Statement.delete s.placeholder m.name info id >>= fun q =>
        .ok (.send .writer q fun o => .ok o.success)
      | none => .error (.model (.missingPrimaryKey m.name info.primaryKey)) :=
  m.bind_requireKey info a _

theorem saveWith_eq :
    saveWith s m a info = liftModel (m.dataWithKey info a) >>= fun found =>
      match found.2 with
      | some id => Statement.update s.placeholder m.name info found.1 id >>= fun q =>
        .ok (.send .writer q (updated info id))
      | none => createWith s m a info := by
  rw [saveWith, Model.dataWithKey]
  cases m.data a with
  | error e => rfl
  | ok fields =>
    simp only [liftModel_ok, ok_bind]
    cases m.keyValue info fields with
    | error e => rfl
    | ok key => cases key <;> rfl

theorem created_of_failed {outcome : Outcome} (h : outcome.success = false) :
    ∃ text, created info outcome = .error (.driver text) := by
  rw [created, h]
  exact ⟨_, rfl⟩

theorem updated_of_failed (id : Scalar) {outcome : Outcome}
    (h : outcome.success = false) : ∃ text, updated info id outcome = .error (.driver text) := by
  rw [updated, h]
  exact ⟨_, rfl⟩

theorem updated_of_success (id : Scalar) {outcome : Outcome}
    (h : outcome.success = true) : updated info id outcome = .ok (some id) := by
  rw [updated, h]
  rfl

end Operation

namespace Write

section Planned

open Operation

variable {s : Settings} {m : Model α} {a : α} {info : Metadata} {fields : Fields Json}

theorem planned_of_error {e : ModelError} (read : m.dataWithKey info a = .error e) :
    ∀ write, write ≠ create → write.planned s m a info = .error (.model e)
  | create, h => absurd rfl h
  | update, _ => by
    rw [planned, updateWith_eq, read]
    rfl
  | save, _ => by
    rw [planned, saveWith_eq, read]
    rfl
  | delete, _ => by
    rw [planned, deleteWith_eq, read]
    rfl

theorem planned_of_none (read : m.dataWithKey info a = .ok (fields, none)) :
    update.planned s m a info = .error (.model (.missingPrimaryKey m.name info.primaryKey)) ∧
      delete.planned s m a info = .error (.model (.missingPrimaryKey m.name info.primaryKey)) ∧
      save.planned s m a info = create.planned s m a info := by
  refine ⟨?_, ?_, ?_⟩
  · rw [planned, updateWith_eq, read]
    rfl
  · rw [planned, deleteWith_eq, read]
    rfl
  · rw [planned, planned, saveWith_eq, read]
    rfl

theorem planned_of_some {id : Scalar} (read : m.dataWithKey info a = .ok (fields, some id)) :
    (update.planned s m a info = Statement.update s.placeholder m.name info fields id >>= fun q =>
        .ok (.send .writer q fun o => .ok o.success)) ∧
      save.planned s m a info = Statement.update s.placeholder m.name info fields id >>= fun q =>
        .ok (.send .writer q (updated info id)) := by
  refine ⟨?_, ?_⟩
  · rw [planned, updateWith_eq, read]
    rfl
  · rw [planned, saveWith_eq, read]
    rfl

theorem finish_of_createWith {side : Side} {q : Query}
    {finish : Outcome → Except Error (Option Scalar)}
    (h : createWith s m a info = .ok (.send side q finish)) : finish = created info := by
  obtain ⟨fields, -, h⟩ := bind_eq_ok_iff.1 h
  exact finish_of_query h

theorem finish_of_saveWith {side : Side} {q : Query}
    {finish : Outcome → Except Error (Option Scalar)}
    (h : saveWith s m a info = .ok (.send side q finish)) :
    finish = created info ∨ ∃ id, finish = updated info id := by
  rw [saveWith_eq] at h
  obtain ⟨⟨fields, key⟩, -, h⟩ := bind_eq_ok_iff.1 h
  cases key with
  | none => exact .inl (finish_of_createWith h)
  | some id => exact .inr ⟨id, finish_of_query h⟩

end Planned

theorem decided_operation (s : Settings) (info : Lookups) (m : Model α) (a : α) (write : Write) :
    (write.operation m a).decided s info = write.planned s m a (info m) := by
  cases write <;> rfl

theorem cacheAfter_operation (s : Settings) (c : Cache) (m : Model α) (a : α) (write : Write) :
    (write.operation m a).cacheAfter s c = (Planning.found s c m).2 := by
  cases write <;> rfl

end Write

namespace Orm

open Operation Planning

variable {o : Orm σ} {w : World σ} {m : Model α} {a : α}

def resolved (o : Orm σ) (w : World σ) (m : Model α) : World σ :=
  { w with cache := (found o.settings w.cache m).2 }

theorem metadata_resolved (o : Orm σ) (w : World σ) (m : Model α) :
    o.metadata (o.resolved w m) m = o.metadata w m :=
  congrArg Prod.fst (found_found o.settings w.cache m)

theorem resolved_resolved (o : Orm σ) (w : World σ) (m : Model α) :
    o.resolved (o.resolved w m) m = o.resolved w m := by
  show ({ w with cache := (found o.settings (found o.settings w.cache m).2 m).2 } : World σ) = _
  rw [found_found]
  rfl

theorem known_of_cacheAfter {op : Operation γ}
    (h : op.cacheAfter o.settings w.cache = (found o.settings w.cache m).2) :
    o.known op w m = o.metadata w m := by
  rw [known, Orm.metadata, cache_perform, h, found_found]
  rfl

theorem decided_known (o : Orm σ) (w : World σ) (m : Model α) (a : α) (write : Write) :
    (write.operation m a).decided o.settings (o.known (write.operation m a) w) =
      write.planned o.settings m a (o.metadata w m) := by
  have cache := write.cacheAfter_operation o.settings w.cache m a
  rw [Write.decided_operation, known_of_cacheAfter cache]

theorem perform_operation (o : Orm σ) (w : World σ) (m : Model α) (a : α) (write : Write) :
    o.perform (write.operation m a) w =
      World.lift (o.settle (write.planned o.settings m a (o.metadata w m))) (o.resolved w m) := by
  rw [perform_decided, decided_known, Write.cacheAfter_operation, resolved]

theorem perform_isPersisted (o : Orm σ) (w : World σ) (m : Model α) (a : α) :
    o.perform (.isPersisted m a) w =
      World.lift (o.settle (isPersistedWith m a (o.metadata w m))) (o.resolved w m) := by
  have cache : (Operation.isPersisted m a).cacheAfter o.settings w.cache =
      (found o.settings w.cache m).2 := rfl
  rw [perform_decided, decided, known_of_cacheAfter cache, cache, resolved]

theorem value_isPersisted (o : Orm σ) (w : World σ) (m : Model α) (a : α) :
    (o.perform (.isPersisted m a) w).value = liftModel (m.isPersisted (o.metadata w m) a) := by
  rw [perform_isPersisted, isPersistedWith]
  cases m.isPersisted (o.metadata w m) a <;> rfl

theorem state_isPersisted (o : Orm σ) (w : World σ) (m : Model α) (a : α) :
    (o.perform (.isPersisted m a) w).state = o.resolved w m := by
  rw [perform_isPersisted, isPersistedWith]
  cases m.isPersisted (o.metadata w m) a <;> rfl

/-- The question may be asked before a write without changing it. -/
theorem perform_after_isPersisted (o : Orm σ) (w : World σ) (m : Model α) (a : α) (write : Write) :
    o.perform (write.operation m a) (o.perform (.isPersisted m a) w).state =
      o.perform (write.operation m a) w := by
  rw [state_isPersisted, perform_operation, perform_operation, metadata_resolved,
    resolved_resolved]

section Planned

theorem refuses_of_planned (write : Write) {e : Error}
    (h : write.planned o.settings m a (o.metadata w m) = .error e) :
    o.Refuses (write.operation m a) w e :=
  refuses_of_decided ((o.decided_known w m a write).trans h)

theorem sent_iff_planned (write : Write) {side : Side} {q : Query} :
    (write.operation m a).sent o.settings w.cache = some (side, q) ↔
      ∃ finish, write.planned o.settings m a (o.metadata w m) = .ok (.send side q finish) := by
  rw [Operation.sent_eq_some_iff, Write.eval_plan]
  rfl

variable {q : Query}

theorem delivers_of_planned (write : Write) {finish : Outcome → Except Error write.Answer}
    (h : write.planned o.settings m a (o.metadata w m) = .ok (.send .writer q finish)) :
    o.Delivers (write.operation m a) w .writer q :=
  delivers_of_decided ((o.decided_known w m a write).trans h)

theorem value_of_planned (write : Write) {finish : Outcome → Except Error write.Answer}
    (h : write.planned o.settings m a (o.metadata w m) = .ok (.send .writer q finish)) :
    (o.perform (write.operation m a) w).value =
      (o.writer.execute q w.state).value >>= finish :=
  value_of_decided ((o.decided_known w m a write).trans h)

end Planned

section Failed

variable {q : Query} {outcome : Outcome}

theorem create_of_failed (sent : (Operation.create m a).sent o.settings w.cache = some (.writer, q))
    (answered : (o.writer.execute q w.state).value = .ok outcome)
    (failed : outcome.success = false) :
    ∃ text, (o.perform (.create m a) w).value = .error (.driver text) := by
  obtain ⟨finish, planned⟩ := (sent_iff_planned .create).1 sent
  have value := value_of_planned .create planned
  rw [answered, Write.finish_of_createWith planned] at value
  obtain ⟨text, refused⟩ := created_of_failed (o.metadata w m) failed
  exact ⟨text, value.trans refused⟩

theorem save_of_failed (sent : (Operation.save m a).sent o.settings w.cache = some (.writer, q))
    (answered : (o.writer.execute q w.state).value = .ok outcome)
    (failed : outcome.success = false) :
    ∃ text, (o.perform (.save m a) w).value = .error (.driver text) := by
  obtain ⟨finish, planned⟩ := (sent_iff_planned .save).1 sent
  have value := value_of_planned .save planned
  rw [answered] at value
  rcases Write.finish_of_saveWith planned with rfl | ⟨id, rfl⟩
  · obtain ⟨text, refused⟩ := created_of_failed (o.metadata w m) failed
    exact ⟨text, value.trans refused⟩
  · obtain ⟨text, refused⟩ := updated_of_failed (o.metadata w m) id failed
    exact ⟨text, value.trans refused⟩

end Failed

theorem save_agrees_update {fields : Fields Json} {id : Scalar}
    (read : m.dataWithKey (o.metadata w m) a = .ok (fields, some id)) :
    (∃ e, Statement.update o.settings.placeholder m.name (o.metadata w m) fields id = .error e ∧
        o.Refuses (.save m a) w e ∧ o.Refuses (.update m a) w e) ∨
      ∃ q, Statement.update o.settings.placeholder m.name (o.metadata w m) fields id = .ok q ∧
        o.Delivers (.save m a) w .writer q ∧ o.Delivers (.update m a) w .writer q ∧
        ∀ outcome, (o.writer.execute q w.state).value = .ok outcome →
          ((o.perform (.save m a) w).value = .ok (some id) ↔
              (o.perform (.update m a) w).value = .ok true) ∧
            ((∃ text, (o.perform (.save m a) w).value = .error (.driver text)) ↔
              (o.perform (.update m a) w).value = .ok false) := by
  obtain ⟨update, save⟩ := Write.planned_of_some (s := o.settings) read
  cases made : Statement.update o.settings.placeholder m.name (o.metadata w m) fields id with
  | error e =>
    rw [made, error_bind] at update save
    exact .inl ⟨e, rfl, refuses_of_planned .save save, refuses_of_planned .update update⟩
  | ok q =>
    rw [made, ok_bind] at update save
    refine .inr ⟨q, rfl, delivers_of_planned .save save, delivers_of_planned .update update, ?_⟩
    intro outcome answered
    have saved : (o.perform (.save m a) w).value = updated (o.metadata w m) id outcome :=
      (value_of_planned .save save).trans (by rw [answered, ok_bind])
    have done : (o.perform (.update m a) w).value = .ok outcome.success :=
      (value_of_planned .update update).trans (by rw [answered, ok_bind])
    rw [saved, done]
    cases success : outcome.success with
    | false =>
      obtain ⟨text, refused⟩ := updated_of_failed (o.metadata w m) id success
      simp [refused]
    | true => simp [updated_of_success (o.metadata w m) id success]

/-- Whether a value is persisted tells how it is written. If that cannot be told, nothing
else is done with it, for the same reason. A value that is not persisted is neither
updated nor deleted for want of its key, and saving it is creating it. One that is
persisted is saved by the statement it is updated by, or fails as the update does, and the
two tell in their own way whether the connection reported a success. Neither creating nor
saving takes a write for a success that was none. Asking beforehand changes no write. -/
theorem persistence_agrees (o : Orm σ) (w : World σ) (m : Model α) (a : α) :
    let persisted := (o.perform (.isPersisted m a) w).value
    let missing := Error.model (.missingPrimaryKey m.name (o.metadata w m).primaryKey)
    (∀ e, persisted = .error e →
      o.Refuses (.update m a) w e ∧ o.Refuses (.delete m a) w e ∧ o.Refuses (.save m a) w e) ∧
    (persisted = .ok false →
      o.Refuses (.update m a) w missing ∧ o.Refuses (.delete m a) w missing ∧
        o.perform (.save m a) w = o.perform (.create m a) w) ∧
    (persisted = .ok true →
      ∃ fields id, m.data a = .ok fields ∧ Model.Keyed (o.metadata w m) fields id ∧
        ((∃ e, Statement.update o.settings.placeholder m.name (o.metadata w m) fields id =
              .error e ∧ o.Refuses (.save m a) w e ∧ o.Refuses (.update m a) w e) ∨
          ∃ q, Statement.update o.settings.placeholder m.name (o.metadata w m) fields id =
              .ok q ∧ o.Delivers (.save m a) w .writer q ∧ o.Delivers (.update m a) w .writer q ∧
            ∀ outcome, (o.writer.execute q w.state).value = .ok outcome →
              ((o.perform (.save m a) w).value = .ok (some id) ↔
                  (o.perform (.update m a) w).value = .ok true) ∧
                ((∃ text, (o.perform (.save m a) w).value = .error (.driver text)) ↔
                  (o.perform (.update m a) w).value = .ok false))) ∧
    (∀ op ∈ [Operation.create m a, .save m a], ∀ q outcome,
      op.sent o.settings w.cache = some (.writer, q) →
      (o.writer.execute q w.state).value = .ok outcome → outcome.success = false →
      ∃ text, (o.perform op w).value = .error (.driver text)) ∧
    ∀ write : Write, o.perform (write.operation m a) (o.perform (.isPersisted m a) w).state =
      o.perform (write.operation m a) w := by
  intro persisted missing
  have answer : persisted = liftModel (m.isPersisted (o.metadata w m) a) :=
    o.value_isPersisted w m a
  refine ⟨?_, ?_, ?_, ?_, o.perform_after_isPersisted w m a⟩
  · intro e unknown
    obtain ⟨cause, failed, rfl⟩ := liftModel_eq_error_iff.1 (answer.symm.trans unknown)
    have read := Model.isPersisted_eq_error_iff.1 failed
    exact ⟨refuses_of_planned .update (Write.planned_of_error read .update nofun),
      refuses_of_planned .delete (Write.planned_of_error read .delete nofun),
      refuses_of_planned .save (Write.planned_of_error read .save nofun)⟩
  · intro unsaved
    obtain ⟨fields, read⟩ :=
      Model.exists_data_of_not_persisted (liftModel_eq_ok_iff.1 (answer.symm.trans unsaved))
    obtain ⟨update, delete, save⟩ := Write.planned_of_none (s := o.settings) read
    refine ⟨refuses_of_planned .update update, refuses_of_planned .delete delete, ?_⟩
    have saving := o.perform_operation w m a .save
    rw [save] at saving
    exact saving.trans (o.perform_operation w m a .create).symm
  · intro saved
    obtain ⟨fields, id, read⟩ :=
      Model.exists_key_of_persisted (liftModel_eq_ok_iff.1 (answer.symm.trans saved))
    obtain ⟨data, key⟩ := Model.dataWithKey_eq_ok_iff.1 read
    exact ⟨fields, id, data, Model.keyValue_eq_some_iff.1 key, save_agrees_update read⟩
  · intro op hop q outcome sent answered failed
    simp only [List.mem_cons, List.not_mem_nil, or_false] at hop
    rcases hop with rfl | rfl
    · exact create_of_failed sent answered failed
    · exact save_of_failed sent answered failed

theorem persistence_agrees_unsuccessful :
    let db : Connection Unit := connect ⟨"db", fun _ _ => (.ok .failed, ())⟩ []
    let o : Orm Unit := .new db
    let note : Model Json := .untyped "note" "Note"
    let draft : Json := .obj [("id", .null), ("title", .str "Tea")]
    let kept : Json := .obj [("id", .str "n7"), ("title", .str "Tea")]
    let w : World Unit := .start ()
    (o.perform (.isPersisted note draft) w).value = .ok false ∧
      o.perform (.save note draft) w = o.perform (.create note draft) w ∧
      (o.perform (.isPersisted note kept) w).value = .ok true ∧
      (o.perform (.update note kept) w).value = .ok false ∧
      ∃ text, (o.perform (.save note kept) w).value = .error (.driver text) := by
  intro db o note draft kept w
  have unsaved : (o.perform (.isPersisted note draft) w).value = .ok false := rfl
  have saved : (o.perform (.isPersisted note kept) w).value = .ok true := rfl
  have done : (o.perform (.update note kept) w).value = .ok false :=
    toOption_eq_some_iff.1 (by decide +kernel)
  refine ⟨unsaved, ((persistence_agrees o w note draft).2.1 unsaved).2.2, saved, done, ?_⟩
  obtain ⟨fields, id, -, -, refused | written⟩ := (persistence_agrees o w note kept).2.2.1 saved
  · -- the update has a result, so it was not refused
    obtain ⟨e, -, -, update⟩ := refused
    rw [update.value] at done
    cases done
  · obtain ⟨q, -, -, -, told⟩ := written
    exact (told .failed rfl).2.2 done

end Orm

end SqlMapper

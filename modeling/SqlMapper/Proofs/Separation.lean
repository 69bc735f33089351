import SqlMapper.Proofs.Phases

/-!
What one operation does to the connections of a mapper. It refuses with the error of the
first phase that fails, or answers by itself, and then no statement is run; or it runs
exactly one statement, on the connection of its side, whose error it passes on. The
metadata it goes by are those that the mapper finds from then on.
-/

namespace SqlMapper

variable {σ α β : Type}

namespace Operation

variable {style : PlaceholderStyle} {info : Lookups} {fields : Fields Json} {key : Option Scalar}

theorem side_of_statement {op : Operation α} {r : Except Error Query}
    (h : op.statement style info fields key = some r) : ∃ side, op.side? = some side := by
  cases op with
  | isPersisted m a => cases h
  | _ => exact ⟨_, rfl⟩

theorem asked_of_data {op : Operation α} {e : ModelError} (data : op.extracted = .error e) :
    op.asked style info = .error (.model e) := by
  rw [asked, data]
  rfl

theorem asked_of_key (style : PlaceholderStyle) {op : Operation α} {r : Except Error (Option Scalar)}
    (data : op.extracted = .ok fields) (found : op.key info fields = r) :
    op.asked style info = r >>= fun key => ready (op.statement style info fields key) := by
  rw [asked, data, liftModel_ok, ok_bind, found]

theorem exists_plan_of_asked {s : Settings} {op : Operation α} {q : Option Query}
    (h : op.asked s.placeholder info = .ok q) :
    ∃ plan, op.decided s info = .ok plan ∧
      plan.asked = q.bind fun q => op.side?.map (·, q) := by
  have planned := op.asked_decided s info
  rw [h, map_eq_bind] at planned
  obtain ⟨plan, hplan, hasked⟩ := bind_eq_ok_iff.1 planned
  exact ⟨plan, hplan, Except.ok.inj hasked⟩

theorem foreignKey_eq_none_iff (child : Model α) {key : String} :
    foreignKey child key fields = .ok none ↔
      fields.get? key = none ∨ fields.get? key = some .null := by
  unfold foreignKey
  split
  · next h => simp [h]
  · next h => simp [h]
  · next v hnull h =>
    have other : v ≠ .null := fun eq => hnull eq
    cases Scalar.ofJson? v <;> simp [h, other]

theorem foreignKey_eq_some_iff (child : Model α) {key : String} {id : Scalar} :
    foreignKey child key fields = .ok (some id) ↔
      ∃ v, fields.get? key = some v ∧ v ≠ .null ∧ Scalar.ofJson? v = some id := by
  unfold foreignKey
  split
  · next h => simp [h]
  · next h => simp [h]
  · next v hnull h =>
    have other : v ≠ .null := fun eq => hnull eq
    cases hs : Scalar.ofJson? v <;> simp [h, other, hs]

end Operation

namespace Orm

open Planning

section Perform

variable (o : Orm σ) (op : Operation α) (w : World σ)

def settle (o : Orm σ) : Except Error (Plan α) → Exec σ (Except Error α)
  | .ok plan => o.finish plan
  | .error e => return .error e

theorem perform_eq_settle :
    o.perform op w =
      World.lift (o.settle (op.decided o.settings fun m =>
          (found o.settings (op.cacheAfter o.settings w.cache) m).1))
        { w with cache := op.cacheAfter o.settings w.cache } := by
  rw [perform_eq, Operation.eval_plan_eq]
  cases op.decided o.settings fun m =>
    (found o.settings (op.cacheAfter o.settings w.cache) m).1 <;> rfl

theorem cache_perform : (o.perform op w).state.cache = op.cacheAfter o.settings w.cache := by
  rw [perform_eq_settle]
  rfl

theorem defaults_perform : (o.perform op w).state.defaults = w.defaults := by
  rw [perform_eq_settle]
  rfl

def known : Lookups := fun m => o.metadata (o.perform op w).state m

structure Idle : Prop where
  notes : (o.perform op w).notes = []
  state : (o.perform op w).state.state = w.state

structure Refuses (e : Error) : Prop extends o.Idle op w where
  value : (o.perform op w).value = .error e

structure Answers (a : α) : Prop extends o.Idle op w where
  value : (o.perform op w).value = .ok a

/-- One statement is run on the connection of a side, and nothing else; if it fails, so
does the operation, with the same error. -/
structure Runs (side : Side) (q : Query) : Prop where
  notes : (o.perform op w).notes = ((o.connection side).execute q w.state).notes
  state : (o.perform op w).state.state = ((o.connection side).execute q w.state).state
  unchanged : ∀ e, ((o.connection side).execute q w.state).value = .error e →
    (o.perform op w).value = .error e

/-- One statement is handed to the connection of a side and run there, and nothing else. -/
structure Delivers (side : Side) (q : Query) : Prop extends o.Runs op w side q where
  sent : op.sent o.settings w.cache = some (side, q)

theorem perform_decided :
    o.perform op w =
      World.lift (o.settle (op.decided o.settings (o.known op w)))
        { w with cache := op.cacheAfter o.settings w.cache } := by
  unfold known Orm.metadata
  rw [cache_perform, perform_eq_settle]

end Perform

variable {o : Orm σ} {op : Operation α} {w : World σ}

theorem refuses_of_decided {e : Error} (h : op.decided o.settings (o.known op w) = .error e) :
    o.Refuses op w e := by
  have run := o.perform_decided op w
  rw [h] at run
  exact ⟨⟨congrArg Ran.notes run, congrArg (·.state.state) run⟩, congrArg Ran.value run⟩

theorem answers_of_decided {a : α}
    (h : op.decided o.settings (o.known op w) = .ok (.answer a)) : o.Answers op w a := by
  have run := o.perform_decided op w
  rw [h] at run
  exact ⟨⟨congrArg Ran.notes run, congrArg (·.state.state) run⟩, congrArg Ran.value run⟩

theorem runs_of_decided {side : Side} {q : Query} {finish : Outcome → Except Error α}
    (h : op.decided o.settings (o.known op w) = .ok (.send side q finish)) :
    o.Runs op w side q := by
  have run := o.perform_decided op w
  rw [h, settle] at run
  simp only [World.lift, Exec.onPart, finish_send] at run
  refine ⟨congrArg Ran.notes run, congrArg (·.state.state) run, fun e failed => ?_⟩
  rw [run, failed]
  rfl

theorem delivers_of_decided {side : Side} {q : Query} {finish : Outcome → Except Error α}
    (h : op.decided o.settings (o.known op w) = .ok (.send side q finish)) :
    o.Delivers op w side q := by
  refine ⟨runs_of_decided h, Operation.sent_eq_some_iff.2 ⟨finish, ?_⟩⟩
  unfold known Orm.metadata at h
  rw [cache_perform] at h
  rw [Operation.eval_plan_eq, h]

theorem exists_decided_of_sent {side : Side} {q : Query}
    (h : op.sent o.settings w.cache = some (side, q)) :
    ∃ finish, op.decided o.settings (o.known op w) = .ok (.send side q finish) := by
  obtain ⟨finish, planned⟩ := Operation.sent_eq_some_iff.1 h
  rw [Operation.eval_plan_eq] at planned
  unfold known Orm.metadata
  rw [cache_perform]
  exact ⟨finish, planned⟩

theorem value_of_decided {side : Side} {q : Query} {finish : Outcome → Except Error α}
    (h : op.decided o.settings (o.known op w) = .ok (.send side q finish)) :
    (o.perform op w).value = ((o.connection side).execute q w.state).value >>= finish := by
  rw [perform_decided, h, settle]
  simp only [World.lift, Exec.onPart, finish_send]

/-- How an operation goes, by its phases. The cases are all there are: the data is taken
or not, the key is found or not, and the statement is not needed, cannot be made, or is
there. -/
structure Separates (o : Orm σ) (op : Operation α) (w : World σ) : Prop where
  extraction : ∀ e, op.extracted = .error e → o.Refuses op w (.model e)
  lookup : ∀ fields e, op.extracted = .ok fields → op.key (o.known op w) fields = .error e →
    o.Refuses op w e
  binding : ∀ fields key e, op.extracted = .ok fields → op.key (o.known op w) fields = .ok key →
    op.statement o.settings.placeholder (o.known op w) fields key = some (.error e) →
    o.Refuses op w e
  silence : ∀ fields key, op.extracted = .ok fields → op.key (o.known op w) fields = .ok key →
    op.statement o.settings.placeholder (o.known op w) fields key = none →
    ∃ a, o.Answers op w a
  sending : ∀ fields key q, op.extracted = .ok fields → op.key (o.known op w) fields = .ok key →
    op.statement o.settings.placeholder (o.known op w) fields key = some (.ok q) →
    ∃ side, op.side? = some side ∧ o.Runs op w side q

theorem refuses_of_asked {e : Error}
    (h : op.asked o.settings.placeholder (o.known op w) = .error e) : o.Refuses op w e := by
  have planned := op.asked_decided o.settings (o.known op w)
  rw [h] at planned
  exact refuses_of_decided (map_eq_error_iff.1 planned)

theorem answers_of_asked (h : op.asked o.settings.placeholder (o.known op w) = .ok none) :
    ∃ a, o.Answers op w a := by
  obtain ⟨plan, hplan, hasked⟩ := Operation.exists_plan_of_asked h
  cases plan with
  | answer a => exact ⟨a, answers_of_decided hplan⟩
  | send side q finish => cases hasked

theorem runs_of_asked {side : Side} {q : Query} (hside : op.side? = some side)
    (h : op.asked o.settings.placeholder (o.known op w) = .ok (some q)) :
    o.Runs op w side q := by
  obtain ⟨plan, hplan, hasked⟩ := Operation.exists_plan_of_asked h
  rw [hside] at hasked
  cases plan with
  | answer a => cases hasked
  | send side' q' finish =>
    cases hasked
    exact runs_of_decided hplan

theorem separates (o : Orm σ) (op : Operation α) (w : World σ) : o.Separates op w where
  extraction _ data := refuses_of_asked (Operation.asked_of_data data)
  lookup _ _ data key := refuses_of_asked (Operation.asked_of_key _ data key)
  binding _ _ _ data key made := by
    have asked := Operation.asked_of_key o.settings.placeholder data key
    rw [ok_bind, made] at asked
    exact refuses_of_asked asked
  silence _ _ data key made := by
    have asked := Operation.asked_of_key o.settings.placeholder data key
    rw [ok_bind, made] at asked
    exact answers_of_asked asked
  sending _ _ _ data key made := by
    obtain ⟨side, hside⟩ := Operation.side_of_statement made
    have asked := Operation.asked_of_key o.settings.placeholder data key
    rw [ok_bind, made] at asked
    exact ⟨side, hside, runs_of_asked hside asked⟩

theorem idle_of_side_eq_none (h : op.side? = none) : o.Idle op w := by
  have phases := o.separates op w
  cases data : op.extracted with
  | error e => exact (phases.extraction e data).toIdle
  | ok fields =>
    cases key : op.key (o.known op w) fields with
    | error e => exact (phases.lookup fields e data key).toIdle
    | ok key' =>
      cases made : op.statement o.settings.placeholder (o.known op w) fields key' with
      | none =>
        obtain ⟨a, answer⟩ := phases.silence fields key' data key made
        exact answer.toIdle
      | some r =>
        obtain ⟨side, hside⟩ := Operation.side_of_statement made
        rw [h] at hside
        cases hside

theorem answers_belongsTo {child : Model α} {parent : Model β} {a : α} {fields : Fields Json}
    (data : child.data a = .ok fields)
    (absent : fields.get? (o.known (.belongsTo child parent a) w parent).relationKey = none ∨
      fields.get? (o.known (.belongsTo child parent a) w parent).relationKey = some .null) :
    o.Answers (.belongsTo child parent a) w none := by
  have key := (Operation.foreignKey_eq_none_iff child).2 absent
  refine answers_of_decided ?_
  rw [Operation.decided, Operation.belongsToWith, data, liftModel_ok, ok_bind, key]
  rfl

end Orm

structure Delivery (σ : Type) where
  connection : Connection σ
  query : Query
  state : σ

def Delivery.run (d : Delivery σ) : Ran σ Answer := d.connection.execute d.query d.state

namespace Orm

def delivery? (o : Orm σ) (op : Operation α) (w : World σ) : Option (Delivery σ) :=
  match op.asked o.settings.placeholder (o.known op w), op.side? with
  | .ok (some q), some side => some ⟨o.connection side, q, w.state⟩
  | _, _ => none

theorem notes_perform (o : Orm σ) (op : Operation α) (w : World σ) :
    (o.perform op w).notes = (o.delivery? op w).toList.flatMap fun d => d.run.notes := by
  rw [delivery?]
  cases asked : op.asked o.settings.placeholder (o.known op w) with
  | error e => exact (refuses_of_asked asked).notes
  | ok query =>
    cases query with
    | none =>
      obtain ⟨a, answer⟩ := answers_of_asked asked
      exact answer.notes
    | some q =>
      cases hside : op.side? with
      | none => exact (idle_of_side_eq_none hside).notes
      | some side => exact (runs_of_asked hside asked).notes.trans (List.append_nil _).symm

end Orm

end SqlMapper

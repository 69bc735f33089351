import SqlMapper.Proofs.Persistence
import SqlMapper.Proofs.Written

/-!
Operations that write. Such an operation sends the statement meant for the data
of its value, to the writer, or nothing at all. The text is made of the metadata
and the names of the data; the scalars of the data are the parameters.
-/

namespace SqlMapper

open Statement

variable {σ α : Type}

inductive Write where
  | create
  | update
  | save
  | delete

namespace Write

abbrev Answer : Write → Type
  | create | save => Option Scalar
  | update | delete => Bool

def operation (m : Model α) (a : α) : (write : Write) → Operation write.Answer
  | create => .create m a
  | update => .update m a
  | save => .save m a
  | delete => .delete m a

variable (style : PlaceholderStyle) (info : Metadata) (fields : Fields Json)

def Inserts (q : Query) : Prop :=
  ∃ written, Columns (fields.others info.primaryKey) written ∧
    q = ⟨insertion style info.tableName (written.map Prod.fst), written.map Prod.snd⟩

def Updates (q : Query) : Prop :=
  ∃ id, Model.Keyed info fields id ∧ isIdentifier info.primaryKey = true ∧
    ∃ written, written ≠ [] ∧ Columns (fields.others info.primaryKey) written ∧
      q = ⟨updating style info.tableName (written.map Prod.fst) info.primaryKey,
        written.map Prod.snd ++ [id]⟩

def Deletes (q : Query) : Prop :=
  ∃ id, Model.Keyed info fields id ∧ isIdentifier info.primaryKey = true ∧
    q = ⟨deletion style info.tableName info.primaryKey, [id]⟩

def Intended (style : PlaceholderStyle) (info : Metadata) (fields : Fields Json) (q : Query) :
    Write → Prop
  | create => Inserts style info fields q
  | update => Updates style info fields q
  | save => Model.Unkeyed info fields ∧ Inserts style info fields q ∨ Updates style info fields q
  | delete => Deletes style info fields q

end Write

namespace Write

open Operation Planning

variable {style : PlaceholderStyle} {info : Metadata} {fields : Fields Json} {q : Query}

def planned (s : Settings) (m : Model α) (a : α) (info : Metadata) :
    (write : Write) → Except Error (Plan write.Answer)
  | create => createWith s m a info
  | update => updateWith s m a info
  | save => saveWith s m a info
  | delete => deleteWith s m a info

theorem eval_plan (s : Settings) (m : Model α) (a : α) (c : Cache) (write : Write) :
    ((write.operation m a).plan s).eval c =
      (write.planned s m a (found s c m).1, (found s c m).2) := by
  cases write with
  | create => exact eval_planCreate s m a c
  | update => exact eval_planUpdate s m a c
  | save => exact eval_planSave s m a c
  | delete => exact eval_planDelete s m a c

theorem tableEntry_notMem_keys (plain : ∀ name ∈ fields.keys, Model.isReserved name = false) :
    tableEntry ∉ fields.keys := by
  intro h
  have reserved : Model.isReserved tableEntry = true := by decide
  rw [plain _ h] at reserved
  cases reserved

theorem primaryKey_ne_tableEntry {id : Scalar}
    (plain : ∀ name ∈ fields.keys, Model.isReserved name = false)
    (keyed : Model.Keyed info fields id) : info.primaryKey ≠ tableEntry := by
  intro h
  exact tableEntry_notMem_keys plain (h ▸ keyed.mem_keys)

theorem update_keyed_iff (plain : ∀ name ∈ fields.keys, Model.isReserved name = false)
    (style : PlaceholderStyle) (model : String) (info : Metadata) (q : Query) :
    (∃ id, Model.Keyed info fields id ∧ Statement.update style model info fields id = .ok q) ↔
      Updates style info fields q := by
  refine exists_congr fun id => and_congr_right fun keyed => ?_
  exact update_eq_ok_iff style model (tableEntry_notMem_keys plain)
    (primaryKey_ne_tableEntry plain keyed) id q

theorem delete_keyed_iff (plain : ∀ name ∈ fields.keys, Model.isReserved name = false)
    (style : PlaceholderStyle) (model : String) (info : Metadata) (q : Query) :
    (∃ id, Model.Keyed info fields id ∧ Statement.delete style model info id = .ok q) ↔
      Deletes style info fields q := by
  refine exists_congr fun id => and_congr_right fun keyed => ?_
  exact delete_eq_ok_iff style model (primaryKey_ne_tableEntry plain keyed) id q

theorem sends_requireKey {γ : Type} {m : Model α} {side : Side} {r : Scalar → Except Error Query}
    {finish : Scalar → Outcome → Except Error γ} :
    Sends side q (liftModel (m.requireKey info fields) >>= fun id =>
      r id >>= fun q => .ok (.send .writer q (finish id))) ↔
    side = .writer ∧ ∃ id, Model.Keyed info fields id ∧ r id = .ok q := by
  rw [sends_bind]
  refine ⟨fun h => ?_, fun h => ?_⟩
  · obtain ⟨id, hid, h⟩ := h
    have keyed := Model.requireKey_eq_ok_iff.1 (liftModel_eq_ok_iff.1 hid)
    obtain ⟨hside, hq⟩ := sends_query.1 h
    exact ⟨hside, id, keyed, hq⟩
  · obtain ⟨hside, id, keyed, hq⟩ := h
    exact ⟨id, liftModel_eq_ok_iff.2 (Model.requireKey_eq_ok_iff.2 keyed), sends_query.2 ⟨hside, hq⟩⟩

theorem sends_data {γ : Type} {m : Model α} {a : α} {side : Side} {P : Fields Json → Prop}
    {f : Fields Json → Except Error (Plan γ)}
    (h : ∀ fields, m.data a = .ok fields → (Sends side q (f fields) ↔ side = .writer ∧ P fields)) :
    Sends side q (liftModel (m.data a) >>= f) ↔
      side = .writer ∧ ∃ fields, m.data a = .ok fields ∧ P fields := by
  rw [sends_bind]
  refine ⟨fun hs => ?_, fun hs => ?_⟩
  · obtain ⟨fields, hdata, hs⟩ := hs
    have data := liftModel_eq_ok_iff.1 hdata
    obtain ⟨hside, hP⟩ := (h fields data).1 hs
    exact ⟨hside, fields, data, hP⟩
  · obtain ⟨hside, fields, data, hP⟩ := hs
    exact ⟨fields, liftModel_eq_ok_iff.2 data, (h fields data).2 ⟨hside, hP⟩⟩

section Sends

variable {s : Settings} {m : Model α} {a : α} {side : Side}

theorem sends_createWith :
    Sends side q (createWith s m a info) ↔
      side = .writer ∧ ∃ fields, m.data a = .ok fields ∧ Inserts s.placeholder info fields q := by
  refine sends_data fun fields _ => ?_
  rw [sends_query, insert_eq_ok_iff]
  rfl

theorem sends_updateWith :
    Sends side q (updateWith s m a info) ↔
      side = .writer ∧ ∃ fields, m.data a = .ok fields ∧ Updates s.placeholder info fields q := by
  refine sends_data fun fields data => ?_
  rw [sends_requireKey, update_keyed_iff (Model.data_eq_ok_iff.1 data).2]

theorem sends_deleteWith :
    Sends side q (deleteWith s m a info) ↔
      side = .writer ∧ ∃ fields, m.data a = .ok fields ∧ Deletes s.placeholder info fields q := by
  refine sends_data fun fields data => ?_
  rw [sends_requireKey, delete_keyed_iff (Model.data_eq_ok_iff.1 data).2]

theorem sends_saveWith :
    Sends side q (saveWith s m a info) ↔
      side = .writer ∧ ∃ fields, m.data a = .ok fields ∧
        (Model.Unkeyed info fields ∧ Inserts s.placeholder info fields q ∨
          Updates s.placeholder info fields q) := by
  refine sends_data fun fields data => ?_
  have plain := (Model.data_eq_ok_iff.1 data).2
  have updates := update_keyed_iff plain s.placeholder m.name info q
  rw [sends_bind, ← updates]
  refine ⟨fun h => ?_, fun h => ?_⟩
  · obtain ⟨key, hkey, h⟩ := h
    have hkey := liftModel_eq_ok_iff.1 hkey
    cases key with
    | none =>
      obtain ⟨hside, fields', data', inserts⟩ := sends_createWith.1 h
      rw [data] at data'
      cases data'
      exact ⟨hside, .inl ⟨Model.keyValue_eq_none_iff.1 hkey, inserts⟩⟩
    | some id =>
      obtain ⟨hside, hq⟩ := sends_query.1 h
      exact ⟨hside, .inr ⟨id, Model.keyValue_eq_some_iff.1 hkey, hq⟩⟩
  · obtain ⟨hside, ⟨unkeyed, inserts⟩ | ⟨id, keyed, hq⟩⟩ := h
    · exact ⟨none, liftModel_eq_ok_iff.2 (Model.keyValue_eq_none_iff.2 unkeyed),
        sends_createWith.2 ⟨hside, fields, data, inserts⟩⟩
    · exact ⟨some id, liftModel_eq_ok_iff.2 (Model.keyValue_eq_some_iff.2 keyed),
        sends_query.2 ⟨hside, hq⟩⟩

end Sends

theorem sent_iff (s : Settings) (m : Model α) (a : α) (c : Cache) (write : Write) (side : Side)
    (q : Query) :
    (write.operation m a).sent s c = some (side, q) ↔
      side = .writer ∧ ∃ fields, m.data a = .ok fields ∧
        write.Intended s.placeholder (found s c m).1 fields q := by
  rw [sent_eq_some_iff, eval_plan]
  cases write with
  | create => exact sends_createWith
  | update => exact sends_updateWith
  | save => exact sends_saveWith
  | delete => exact sends_deleteWith

variable {fields' : Fields Json} {q' : Query}

theorem Inserts.sql_eq (h : Inserts style info fields q) (h' : Inserts style info fields' q')
    (names : fields.keys = fields'.keys) : q.sql = q'.sql := by
  obtain ⟨written, columns, rfl⟩ := h
  obtain ⟨written', columns', rfl⟩ := h'
  show insertion _ _ _ = insertion _ _ _
  rw [columns.names_eq columns' names]

theorem Updates.sql_eq (h : Updates style info fields q) (h' : Updates style info fields' q')
    (names : fields.keys = fields'.keys) : q.sql = q'.sql := by
  obtain ⟨_, _, _, written, _, columns, rfl⟩ := h
  obtain ⟨_, _, _, written', _, columns', rfl⟩ := h'
  show updating _ _ _ _ = updating _ _ _ _
  rw [columns.names_eq columns' names]

theorem Updates.not_unkeyed (h : Updates style info fields q) : ¬ Model.Unkeyed info fields := by
  obtain ⟨id, keyed, -⟩ := h
  exact keyed.not_unkeyed

/-- The text does not depend on the values of the data, but on whether there is a key. -/
theorem Intended.sql_eq {write : Write} (h : write.Intended style info fields q)
    (h' : write.Intended style info fields' q') (names : fields.keys = fields'.keys)
    (key : Model.Unkeyed info fields ↔ Model.Unkeyed info fields') : q.sql = q'.sql := by
  cases write with
  | create => exact Inserts.sql_eq h h' names
  | update => exact Updates.sql_eq h h' names
  | save =>
    rcases h with ⟨unkeyed, h⟩ | h
    · rcases h' with ⟨-, h'⟩ | h'
      · exact h.sql_eq h' names
      · exact absurd (key.1 unkeyed) h'.not_unkeyed
    · rcases h' with ⟨unkeyed, -⟩ | h'
      · exact absurd (key.2 unkeyed) h.not_unkeyed
      · exact h.sql_eq h' names
  | delete =>
    obtain ⟨_, _, _, rfl⟩ := h
    obtain ⟨_, _, _, rfl⟩ := h'
    rfl

end Write

theorem Orm.metadata_eq {o : Orm σ} {w : World σ} {m : Model α}
    (h : ∀ e, w.cache.find? m.key = some e → e.metadata = m.metadata) :
    o.metadata w m = m.metadata := by
  unfold Orm.metadata Planning.found Cache.resolve
  split
  · split
    · rename_i e he
      exact h e he
    · rfl
  · rfl

/-- A write that plans no statement runs nothing. One that plans a statement runs
it on the writer, and it is the one intended for the data of the value under the
metadata of its model; no name of the data is reserved, and the columns stand in
ascending order. What is intended is also planned. Between two values with the
same names, both with a key or both without one, the text does not change. -/
theorem Orm.perform_write (o : Orm σ) (w : World σ) (m : Model α) (write : Write) :
    (∀ a, (write.operation m a).sent o.settings w.cache = none →
      (o.perform (write.operation m a) w).notes = [] ∧
        (o.perform (write.operation m a) w).state.state = w.state) ∧
    (∀ a side q, (write.operation m a).sent o.settings w.cache = some (side, q) →
      side = .writer ∧
        (o.perform (write.operation m a) w).notes = (o.writer.execute q w.state).notes ∧
        (o.perform (write.operation m a) w).state.state = (o.writer.execute q w.state).state ∧
        ∃ fields, m.persist a = .ok fields ∧
          (∀ name ∈ fields.keys, Model.isReserved name = false) ∧
          ((fields.others (o.metadata w m).primaryKey).map Prod.fst).Pairwise (· < ·) ∧
          write.Intended o.settings.placeholder (o.metadata w m) fields q) ∧
    (∀ a fields q, m.persist a = .ok fields →
      (∀ name ∈ fields.keys, Model.isReserved name = false) →
      write.Intended o.settings.placeholder (o.metadata w m) fields q →
        (write.operation m a).sent o.settings w.cache = some (.writer, q)) ∧
    (∀ a a' fields fields' side side' q q', m.persist a = .ok fields → m.persist a' = .ok fields' →
      fields.keys = fields'.keys →
      (Model.Unkeyed (o.metadata w m) fields ↔ Model.Unkeyed (o.metadata w m) fields') →
      (write.operation m a).sent o.settings w.cache = some (side, q) →
      (write.operation m a').sent o.settings w.cache = some (side', q') → q.sql = q'.sql) ∧
    ((∀ e, w.cache.find? m.key = some e → e.metadata = m.metadata) →
      o.metadata w m = m.metadata) := by
  refine ⟨fun a h => perform_of_sent_eq_none h, ?_, ?_, ?_, metadata_eq⟩
  · intro a side q h
    obtain ⟨rfl, fields, data, intended⟩ := (Write.sent_iff _ _ _ _ _ _ _).1 h
    obtain ⟨written, plain⟩ := Model.data_eq_ok_iff.1 data
    obtain ⟨notes, state⟩ := perform_of_sent_eq_some h
    exact ⟨rfl, notes, state, fields, written, plain, fields.ascending_others _, intended⟩
  · intro a fields q written plain intended
    have data := Model.data_eq_ok_iff.2 ⟨written, plain⟩
    exact (Write.sent_iff _ _ _ _ _ _ _).2 ⟨rfl, fields, data, intended⟩
  · intro a a' fields fields' side side' q q' written written' names key h h'
    obtain ⟨-, found, data, intended⟩ := (Write.sent_iff _ _ _ _ _ _ _).1 h
    obtain ⟨-, found', data', intended'⟩ := (Write.sent_iff _ _ _ _ _ _ _).1 h'
    have same := (Model.data_eq_ok_iff.1 data).1
    have same' := (Model.data_eq_ok_iff.1 data').1
    rw [written] at same
    rw [written'] at same'
    cases same
    cases same'
    exact intended.sql_eq intended' names key

/-- A deletion looks at no name but the primary key. -/
theorem Write.delete_under_unplain_name :
    ∃ (m : Model Unit) (fields : Fields Json), m.persist () = .ok fields ∧
      (delete.operation m ()).sent {} .empty =
        some (.writer, ⟨"delete from notes where id = ?", [.int 1]⟩) ∧
      "first name" ∈ (fields.others m.metadata.primaryKey).map Prod.fst ∧
      isIdentifier "first name" = false := by
  let fields : Fields Json := (Fields.empty.insert "first name" (.str "Ann")).insert "id"
    (.num (.int 1 (by decide) (by decide)))
  refine ⟨⟨"note", "Note", none, some "notes", none, fun _ => .ok fields, fun _ => .ok ()⟩, fields,
    rfl, ?_, ?_, ?_⟩
  · decide +kernel
  · decide
  · decide

end SqlMapper

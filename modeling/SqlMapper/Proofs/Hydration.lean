import SqlMapper.Model.Record
import SqlMapper.Proofs.Separation

/-!
Rows and the values read from them. An operation that reads a list makes a value of every
row, in the order of the rows, and fails as the first row that cannot be read; one that
reads a single value looks at the first row only (`reads_rows_in_order`). Both look at
nothing but the rows of an answer, so what they make of the same answer agrees.
-/

namespace SqlMapper

variable {σ τ α β : Type}

section Rows

variable {m : Model α} {o : Outcome}

theorem hydrateAll_eq_ok_iff {values : List α} :
    hydrateAll m o = .ok values ↔
      List.Forall₂ (fun row value => m.hydrate row = .ok value) o.rows values := by
  rw [hydrateAll, mapError_eq_ok_iff, mapM_eq_ok_iff]

theorem hydrateAll_eq_error_iff {e : Error} :
    hydrateAll m o = .error e ↔
      ∃ fault, FirstFault (fun row fault => m.hydrate row = .error fault) o.rows fault ∧
        e = .hydration fault := by
  simp only [hydrateAll, mapError_eq_error_iff, mapM_eq_error_iff]

theorem exists_hydrateAll_iff :
    (∃ values, hydrateAll m o = .ok values) ↔ ∀ row ∈ o.rows, ∃ value, m.hydrate row = .ok value := by
  simp only [hydrateAll, mapError_eq_ok_iff, exists_ok_iff, mapM_eq_error_iff, exists_firstFault_iff]
  simp

theorem hydrateFirst_eq_none_iff : hydrateFirst m o = .ok none ↔ o.rows = [] := by
  rw [hydrateFirst]
  cases o.rows with
  | nil => simp
  | cons row rest => simp [mapError_eq_ok_iff, map_eq_ok_iff]

section Cons

variable {row : Json} {rest : List Json}

theorem hydrateFirst_eq_some_iff (rows : o.rows = row :: rest) {value : α} :
    hydrateFirst m o = .ok (some value) ↔ m.hydrate row = .ok value := by
  rw [hydrateFirst, rows, mapError_eq_ok_iff, map_eq_ok_iff]
  simp

theorem hydrateFirst_eq_error_iff (rows : o.rows = row :: rest) {e : Error} :
    hydrateFirst m o = .error e ↔ ∃ fault, m.hydrate row = .error fault ∧ e = .hydration fault := by
  simp only [hydrateFirst, rows, mapError_eq_error_iff, map_eq_error_iff]

end Cons

theorem hydrateFirst_of_hydrateAll {values : List α} (h : hydrateAll m o = .ok values) :
    hydrateFirst m o = .ok values.head? := by
  have read := hydrateAll_eq_ok_iff.1 h
  cases rows : o.rows with
  | nil =>
    rw [rows, List.forall₂_nil_left_iff] at read
    rw [read]
    exact hydrateFirst_eq_none_iff.2 rows
  | cons row rest =>
    rw [rows] at read
    obtain ⟨value, others, first, -, rfl⟩ := List.forall₂_cons_left_iff.1 read
    exact (hydrateFirst_eq_some_iff rows).2 first

theorem hydrateAll_of_hydrateFirst {e : Error} (h : hydrateFirst m o = .error e) :
    hydrateAll m o = .error e := by
  cases rows : o.rows with
  | nil =>
    rw [hydrateFirst_eq_none_iff.2 rows] at h
    cases h
  | cons row rest =>
    obtain ⟨fault, failed, rfl⟩ := (hydrateFirst_eq_error_iff rows).1 h
    have first : FirstFault (fun row fault => m.hydrate row = .error fault) o.rows fault := by
      rw [rows, firstFault_cons]
      exact .inl failed
    exact hydrateAll_eq_error_iff.2 ⟨fault, first, rfl⟩

end Rows

namespace Operation

inductive ReadsAll (m : Model β) : Operation (List β) → Prop
  | findAll : ReadsAll m (.findAll m)
  | findWhere (template : String) (data : Mapping) : ReadsAll m (.findWhere m template data)
  | hasMany {α : Type} (parent : Model α) (a : α) : ReadsAll m (.hasMany parent m a)

inductive ReadsFirst (m : Model β) : Operation (Option β) → Prop
  | findOne (id : Scalar) : ReadsFirst m (.findOne m id)
  | findFirst : ReadsFirst m (.findFirst m)
  | belongsTo {α : Type} (child : Model α) (a : α) : ReadsFirst m (.belongsTo child m a)
  | hasOne {α : Type} (parent : Model α) (a : α) : ReadsFirst m (.hasOne parent m a)

section Finish

variable {s : Settings} {info : Lookups} {m : Model β} {side : Side} {q : Query}

theorem finish_of_childrenWith {γ : Type} {parent : Model α} {a : α} {limit : Option Nat}
    {finish finish' : Outcome → Except Error γ} {parentInfo childInfo : Metadata}
    (h : childrenWith s parent m a limit finish' parentInfo childInfo =
      .ok (.send side q finish)) : finish = finish' := by
  obtain ⟨fields, -, h⟩ := bind_eq_ok_iff.1 h
  obtain ⟨id, -, h⟩ := bind_eq_ok_iff.1 h
  exact finish_of_query h

theorem finish_of_belongsToWith {child : Model α} {a : α} {info : Metadata}
    {finish : Outcome → Except Error (Option β)}
    (h : belongsToWith s child m a info = .ok (.send side q finish)) : finish = hydrateFirst m := by
  obtain ⟨fields, -, h⟩ := bind_eq_ok_iff.1 h
  obtain ⟨key, -, h⟩ := bind_eq_ok_iff.1 h
  cases key with
  | none => cases h
  | some id => exact finish_of_query h

theorem ReadsAll.finish_eq {op : Operation (List β)} (reads : ReadsAll m op)
    {finish : Outcome → Except Error (List β)}
    (h : op.decided s info = .ok (.send side q finish)) : finish = hydrateAll m := by
  cases reads with
  | findAll => exact finish_of_query h
  | findWhere template data => exact finish_of_query h
  | hasMany parent a => exact finish_of_childrenWith h

theorem ReadsFirst.finish_eq {op : Operation (Option β)} (reads : ReadsFirst m op)
    {finish : Outcome → Except Error (Option β)}
    (h : op.decided s info = .ok (.send side q finish)) : finish = hydrateFirst m := by
  cases reads with
  | findOne id => exact finish_of_query h
  | findFirst => exact finish_of_query h
  | belongsTo child a => exact finish_of_belongsToWith h
  | hasOne parent a => exact finish_of_childrenWith h

end Finish

end Operation

namespace Orm

open Operation

def Receives (o : Orm σ) (op : Operation α) (w : World σ) (outcome : Outcome) : Prop :=
  ∃ q, op.sent o.settings w.cache = some (.reader, q) ∧
    (o.reader.execute q w.state).value = .ok outcome

section Receives

variable {o : Orm σ} {w : World σ} {m : Model β} {outcome : Outcome}

theorem Receives.exists_finish {op : Operation α} (received : o.Receives op w outcome) :
    ∃ q finish, op.decided o.settings (o.known op w) = .ok (.send .reader q finish) ∧
      (o.perform op w).value = finish outcome := by
  obtain ⟨q, sent, answered⟩ := received
  obtain ⟨finish, decided⟩ := exists_decided_of_sent sent
  refine ⟨q, finish, decided, ?_⟩
  rw [value_of_decided decided]
  show (o.reader.execute q w.state).value >>= finish = _
  rw [answered, ok_bind]

theorem Receives.value_all {op : Operation (List β)} (received : o.Receives op w outcome)
    (reads : ReadsAll m op) : (o.perform op w).value = hydrateAll m outcome := by
  obtain ⟨q, finish, decided, value⟩ := received.exists_finish
  rw [value, reads.finish_eq decided]

theorem Receives.value_first {op : Operation (Option β)} (received : o.Receives op w outcome)
    (reads : ReadsFirst m op) : (o.perform op w).value = hydrateFirst m outcome := by
  obtain ⟨q, finish, decided, value⟩ := received.exists_finish
  rw [value, reads.finish_eq decided]

end Receives

/-- Whatever a connection answers, a read of a list has the values of all rows, in order, if
every row can be read, and otherwise fails as the first row that cannot. A read of one
value has none exactly if there is no row, and otherwise depends on the first row alone.
So two reads of the same answer agree: the one value is the first of the list, and where it
cannot be read, neither can the list, for the same reason. -/
theorem reads_rows_in_order (o : Orm σ) (w : World σ) (m : Model β) (outcome : Outcome) :
    (∀ op : Operation (List β), ReadsAll m op → o.Receives op w outcome →
      (∀ values, (o.perform op w).value = .ok values ↔
        List.Forall₂ (fun row value => m.hydrate row = .ok value) outcome.rows values) ∧
      ((∃ values, (o.perform op w).value = .ok values) ↔
        ∀ row ∈ outcome.rows, ∃ value, m.hydrate row = .ok value) ∧
      ∀ e, (o.perform op w).value = .error e ↔
        ∃ fault, FirstFault (fun row fault => m.hydrate row = .error fault) outcome.rows fault ∧
          e = .hydration fault) ∧
    (∀ op : Operation (Option β), ReadsFirst m op → o.Receives op w outcome →
      ((o.perform op w).value = .ok none ↔ outcome.rows = []) ∧
      ∀ row rest, outcome.rows = row :: rest →
        (∀ value, (o.perform op w).value = .ok (some value) ↔ m.hydrate row = .ok value) ∧
        ∀ e, (o.perform op w).value = .error e ↔
          ∃ fault, m.hydrate row = .error fault ∧ e = .hydration fault) ∧
    ∀ (τ : Type) (o' : Orm τ) (w' : World τ) (all : Operation (List β))
      (first : Operation (Option β)), ReadsAll m all → ReadsFirst m first →
      o.Receives all w outcome → o'.Receives first w' outcome →
      (∀ values, (o.perform all w).value = .ok values →
        (o'.perform first w').value = .ok values.head?) ∧
      ∀ e, (o'.perform first w').value = .error e → (o.perform all w).value = .error e := by
  refine ⟨?_, ?_, ?_⟩
  · intro op reads received
    rw [received.value_all reads]
    exact ⟨fun values => hydrateAll_eq_ok_iff, exists_hydrateAll_iff,
      fun e => hydrateAll_eq_error_iff⟩
  · intro op reads received
    rw [received.value_first reads]
    exact ⟨hydrateFirst_eq_none_iff, fun row rest rows =>
      ⟨fun value => hydrateFirst_eq_some_iff rows, fun e => hydrateFirst_eq_error_iff rows⟩⟩
  · intro τ o' w' all first readsAll readsFirst received received'
    rw [received.value_all readsAll, received'.value_first readsFirst]
    exact ⟨fun values => hydrateFirst_of_hydrateAll, fun e => hydrateAll_of_hydrateFirst⟩

theorem reads_rows_in_order_torn :
    let note : Model Json := .ofLayout ⟨"Note", [("id", .optional .whole), ("title", .text)]⟩
    let author := (Model.untyped "blog.Author" "Author").withRelationKey (some "author_id")
    let tea : Json := .obj [("id", .null), ("title", .str "Tea")]
    let torn : Json := .obj [("id", .null)]
    let db (rows : List Json) : Connection Unit :=
      connect ⟨"db", fun _ _ => (.ok ⟨false, rows, none⟩, ())⟩ []
    let o (rows : List Json) : Orm Unit := .new (db rows)
    let w : World Unit := .start ()
    let ann : Json := .obj [("id", .str "a1")]
    let untitled : Error := .hydration (.missing "title")
    ((o [tea, torn]).perform (.hasMany author note ann) w).value = .error untitled ∧
      ((o [tea, torn]).perform (.hasOne author note ann) w).value = .ok (some tea) ∧
      ((o [torn, tea]).perform (.hasMany author note ann) w).value = .error untitled := by
  intro note author tea torn db o w ann untitled
  have received (rows : List Json) :
      (o rows).Receives (.hasMany author note ann) w ⟨false, rows, none⟩ ∧
        (o rows).Receives (.hasOne author note ann) w ⟨false, rows, none⟩ := by
    refine ⟨⟨⟨"select * from notes where author_id = ?", [.text "a1"]⟩, ?_, rfl⟩,
      ⟨"select * from notes where author_id = ? limit 1", [.text "a1"]⟩, ?_, rfl⟩
    · show sent {} .empty _ = _
      decide +kernel
    · show sent {} .empty _ = _
      decide +kernel
  have read : note.hydrate tea = .ok tea := rfl
  have unread : note.hydrate torn = .error (.missing "title") := rfl
  obtain ⟨lists, firsts, -⟩ := (o [tea, torn]).reads_rows_in_order w note ⟨false, [tea, torn], none⟩
  obtain ⟨-, firsts', agree⟩ :=
    (o [torn, tea]).reads_rows_in_order w note ⟨false, [torn, tea], none⟩
  refine ⟨?_, ?_, ?_⟩
  · refine ((lists _ (.hasMany author ann) (received _).1).2.2 _).2 ⟨.missing "title", ?_, rfl⟩
    refine ⟨[tea], torn, [], rfl, ?_, unread⟩
    simp [read]
  · exact (((firsts _ (.hasOne author ann) (received _).2).2 tea [torn] rfl).1 tea).2 read
  · have first := (((firsts' _ (.hasOne author ann) (received _).2).2 torn [tea] rfl).2 untitled).2
      ⟨.missing "title", unread, rfl⟩
    exact (agree _ _ w _ _ (.hasMany author ann) (.hasOne author ann) (received _).1 (received _).2).2 _ first

end Orm

end SqlMapper

import SqlMapper.Proofs.Assembly
import SqlMapper.Proofs.Defects
import SqlMapper.Proofs.Written

/-!
What generated statements check. Their templates are put together with the entries
they name, so that binding them never fails, under any names of fields and keys. What
is left to fail is the check of the names and values, and the error is that of the
first field that is at fault.
-/

namespace SqlMapper

theorem firstFault_iff_least {ε α : Type} {fault : String × α → ε → Prop}
    {entries : List (String × α)} (ascending : (entries.map Prod.fst).Pairwise (· < ·)) (e : ε) :
    FirstFault fault entries e ↔
      ∃ a ∈ entries, fault a e ∧ ∀ b ∈ entries, b.1 < a.1 → ∀ e', ¬ fault b e' := by
  induction entries with
  | nil => simp [not_firstFault_nil]
  | cons a rest ih =>
    rw [List.map_cons, List.pairwise_cons] at ascending
    have above : ∀ b ∈ rest, a.1 < b.1 := fun b hb => ascending.1 _ (List.mem_map_of_mem hb)
    rw [firstFault_cons, ih ascending.2]
    constructor
    · rintro (h | ⟨sound, b, hb, h, least⟩)
      · refine ⟨a, by simp, h, fun b hb below => ?_⟩
        obtain rfl | hb := List.mem_cons.1 hb
        · exact absurd below (String.lt_irrefl _)
        · exact absurd below (String.lt_asymm (above b hb))
      · exact ⟨b, by simp [hb], h, List.forall_mem_cons.2 ⟨fun _ => sound, least⟩⟩
    · rintro ⟨b, hb, h, least⟩
      obtain ⟨first, later⟩ := List.forall_mem_cons.1 least
      obtain rfl | hb := List.mem_cons.1 hb
      · exact .inl h
      · exact .inr ⟨first (above b hb), b, hb, h, later⟩

namespace Filled

theorem beforeUnclosed_template (f : Filled) : f.template.beforeUnclosed = none := by
  obtain ⟨slots, tail⟩ := f
  induction slots with
  | nil => rfl
  | cons s slots ih => rw [template_cons, Template.beforeUnclosed, ih, Option.map_none]

theorem bind_isOk {f : Filled} {source : String} {data : Mapping}
    (texts : ∀ s ∈ f.slots, '\x7b' ∉ s.before) (tail : '\x7b' ∉ f.tail)
    (identifiers : ∀ s ∈ f.slots, isIdentifier s.expression.identifier = true)
    (entries : ∀ s ∈ f.slots, data.contains s.expression.identifier = true)
    (hsource : source = f.template.source) (style : PlaceholderStyle) :
    ∃ q, Binding.bind style source data = .ok q := by
  have parsed : Template.parse source = f.template :=
    ((Template.proper_source_iff source f.template).1
      ⟨proper_template texts identifiers tail, hsource.symm⟩).symm
  have sound : ∀ raw ∈ f.template.expressions, ∀ e, ¬ Expression.Defect data raw e := by
    rw [expressions_template]
    intro raw hraw e
    obtain ⟨s, hs, rfl⟩ := List.mem_map.1 hraw
    obtain ⟨value, entry⟩ := Option.isSome_iff_exists.1 (entries s hs)
    have resolved := (resolve_eq_ok_iff data _ s.expression value).2 ⟨identifiers s hs, rfl, entry⟩
    rw [← resolve_eq_error_iff, resolved]
    simp
  rw [exists_ok_iff, Binding.bind, Binding.bindFrom, parsed]
  rintro ⟨err, failed⟩
  obtain first | ⟨-, front, opened, -⟩ := (Template.bind_eq_error_iff ..).1 failed
  · obtain ⟨raw, hraw, e, defect⟩ := (exists_firstFault_iff _ _).1 ⟨err, first⟩
    exact sound raw hraw e defect
  · rw [beforeUnclosed_template] at opened
    cases opened

end Filled

namespace Statement

/-- What is wrong with a field that is written: its name, or else its value. -/
inductive FieldFault (model : String) (field : String × Json) : Error → Prop
  | name (unplain : isIdentifier field.1 = false) :
      FieldFault model field (.model (.invalidData model (.badColumn field.1)))
  | value (plain : isIdentifier field.1 = true)
      (nested : field.2.kind = .array ∨ field.2.kind = .object) :
      FieldFault model field (.binding (.invalidValue field.1 field.2.kind))

def Storable (field : String × Json) : Prop :=
  isIdentifier field.1 = true ∧ field.2.kind ≠ .array ∧ field.2.kind ≠ .object

theorem ofJson?_eq_none_iff (v : Json) :
    Scalar.ofJson? v = none ↔ v.kind = .array ∨ v.kind = .object := by
  cases v with
  | num n => cases n <;> simp [Scalar.ofJson?, Json.kind]
  | _ => simp [Scalar.ofJson?, Json.kind]

theorem exists_fieldFault_iff (model : String) (field : String × Json) :
    (∃ e, FieldFault model field e) ↔ ¬ Storable field := by
  constructor
  · rintro ⟨e, unplain | ⟨plain, nested⟩⟩ ⟨word, notArray, notObject⟩
    · simp [word] at unplain
    · exact nested.elim notArray notObject
  · intro h
    by_cases word : isIdentifier field.1 = true
    · refine ⟨_, .value word ?_⟩
      by_contra flat
      exact h ⟨word, not_or.1 flat⟩
    · exact ⟨_, .name (by simpa using word)⟩

theorem column_eq_error_iff (model : String) (field : String × Json) (e : Error) :
    column model field = .error e ↔ FieldFault model field e := by
  by_cases word : isIdentifier field.1 = true
  · have value : column model field = .error e ↔
        Scalar.ofJson? field.2 = none ∧ e = .binding (.invalidValue field.1 field.2.kind) := by
      rw [column, checkColumn, if_pos word, ok_bind, scalarFor]
      cases Scalar.ofJson? field.2 with
      | none => simp [liftBinding, Except.mapError, eq_comm]
      | some s =>
        show Except.ok (field.1, s) = Except.error e ↔ _
        simp
    rw [value, ofJson?_eq_none_iff]
    constructor
    · rintro ⟨nested, rfl⟩
      exact .value word nested
    · rintro (unplain | ⟨-, nested⟩)
      · simp [word] at unplain
      · exact ⟨nested, rfl⟩
  · have name : column model field = .error (.model (.invalidData model (.badColumn field.1))) := by
      rw [column, checkColumn, if_neg word, error_bind]
    rw [name]
    constructor
    · intro h
      cases h
      exact .name (by simpa using word)
    · rintro (unplain | ⟨plain, -⟩)
      · rfl
      · exact absurd plain word

def FirstFieldFault (model key : String) (data : Fields Json) (e : Error) : Prop :=
  ∃ field ∈ data.entries, field.1 ≠ key ∧ FieldFault model field e ∧
    ∀ other ∈ data.entries, other.1 ≠ key → other.1 < field.1 → ∀ e', ¬ FieldFault model other e'

theorem firstFault_others_iff (model key : String) (data : Fields Json) (e : Error) :
    FirstFault (FieldFault model) (data.others key) e ↔ FirstFieldFault model key data e := by
  rw [firstFault_iff_least (data.ascending_others key)]
  simp only [Fields.mem_others, and_assoc, and_imp, FirstFieldFault]

theorem columns_eq_error_iff (model : String) (info : Metadata) (data : Fields Json) (e : Error) :
    columns model info data = .error e ↔ FirstFieldFault model info.primaryKey data e := by
  rw [columns, mapM_eq_error_iff, ← firstFault_others_iff]
  simp only [column_eq_error_iff]

theorem exists_firstFieldFault_iff (model key : String) (data : Fields Json) :
    (∃ e, FirstFieldFault model key data e) ↔
      ¬ ∀ field ∈ data.entries, field.1 ≠ key → Storable field := by
  simp only [← firstFault_others_iff, exists_firstFault_iff, exists_fieldFault_iff,
    Fields.mem_others]
  push Not
  simp only [and_assoc]

theorem insert_eq_error_iff (style : PlaceholderStyle) (model : String) (info : Metadata)
    (data : Fields Json) (e : Error) :
    Statement.insert style model info data = .error e ↔
      FirstFieldFault model info.primaryKey data e := by
  rw [Statement.insert, bind_eq_error_iff, columns_eq_error_iff]
  simp only [insert_bind_eq, liftBinding_eq_error_iff]
  simp

theorem tableData_contains (info : Metadata) : (tableData info).contains tableEntry = true := by
  rw [Fields.contains, tableData_get?, Option.isSome_some]

/-- The entries of an update hold the table, every column and the key, also where a
column or the key takes the place of the table. -/
theorem updateFilled_isOk {info : Metadata} {data : Fields Json} {written : List (String × Scalar)}
    (columns : Columns (data.others info.primaryKey) written) (nonempty : written ≠ [])
    (key : isIdentifier info.primaryKey = true) (id : Scalar) (style : PlaceholderStyle) :
    ∃ q, Binding.bind style ("update " ++ table ++ " set " ++
      String.intercalate ", " (written.map fun c => braced ("=" ++ c.1)) ++ " where " ++
        braced ("=" ++ info.primaryKey))
      (((tableData info).insertAll (written.map fun c => (c.1, toBindable c.2))).insert
        info.primaryKey (toBindable id)) = .ok q := by
  have tail : '\x7b' ∉ (updateFilled info written id).tail := by simp [updateFilled]
  have named : ∀ s ∈ (updateFilled info written id).slots,
      s.expression.identifier = tableEntry ∨ s.expression.identifier = info.primaryKey ∨
        ∃ c ∈ written, s.expression.identifier = c.1 := by
    intro s hs
    rcases List.mem_cons.1 hs with rfl | hs
    · exact .inl rfl
    rcases List.mem_append.1 hs with hs | hs
    · obtain ⟨-, c, hc, expression, -⟩ := mem_assignmentSlots hs
      exact .inr (.inr ⟨c, hc, by rw [expression]⟩)
    · exact .inr (.inl (by rw [List.mem_singleton.1 hs]))
  refine Filled.bind_isOk (updateFilled_texts info written id) tail ?_ ?_
    (updateFilled_source info nonempty id).symm style
  · intro s hs
    obtain h | h | ⟨c, hc, h⟩ := named s hs
    · rw [h, isIdentifier_tableEntry]
    · rw [h, key]
    · rw [h, columns.word hc]
  · intro s hs
    rw [Fields.contains_insert, Bool.or_eq_true, decide_eq_true_eq, Fields.contains_insertAll]
    obtain h | h | ⟨c, hc, h⟩ := named s hs
    · rw [h]
      exact .inr (.inr (tableData_contains info))
    · exact .inl h
    · refine .inr (.inl (List.mem_map.2 ⟨(c.1, toBindable c.2), ?_, h.symm⟩))
      exact List.mem_map_of_mem hc

theorem others_eq_nil_iff (data : Fields Json) (key : String) :
    data.others key = [] ↔ ∀ field ∈ data.entries, field.1 = key := by
  simp [Fields.others, List.filter_eq_nil_iff]

theorem update_eq_error_iff (style : PlaceholderStyle) (model : String) (info : Metadata)
    (data : Fields Json) (id : Scalar) (e : Error) :
    Statement.update style model info data id = .error e ↔
      isIdentifier info.primaryKey = false ∧
          e = .model (.invalidData model (.badColumn info.primaryKey)) ∨
        isIdentifier info.primaryKey = true ∧
          (FirstFieldFault model info.primaryKey data e ∨
            (∀ field ∈ data.entries, field.1 = info.primaryKey) ∧
              e = .model (.invalidData model .noFields)) := by
  by_cases key : isIdentifier info.primaryKey = true
  · rw [Statement.update, checkColumn, if_pos key, ok_bind, bind_eq_error_iff, columns_eq_error_iff]
    simp only [key, Bool.true_eq_false, false_and, false_or, true_and]
    refine or_congr Iff.rfl ?_
    rw [← others_eq_nil_iff]
    constructor
    · rintro ⟨written, columns, h⟩
      rw [columns_eq_ok_iff] at columns
      cases written with
      | nil =>
        cases h
        exact ⟨List.map_eq_nil_iff.1 columns.names.symm, rfl⟩
      | cons c rest =>
        obtain ⟨q, hq⟩ := updateFilled_isOk columns (by simp) key id style
        have sent : liftBinding (.ok q) = .error e := hq ▸ h
        cases sent
    · rintro ⟨alone, rfl⟩
      refine ⟨[], ?_, rfl⟩
      rw [Statement.columns, alone]
      rfl
  · rw [Statement.update, checkColumn, if_neg key, error_bind]
    simp [key, eq_comm]

end Statement

namespace Lookup

open Statement

theorem statement_eq_error_iff (l : Lookup) (style : PlaceholderStyle) (model : String)
    (info : Metadata) (value : Scalar) (e : Error) :
    l.statement style model info value = .error e ↔
      isIdentifier (l.column info) = false ∧
        e = .model (.invalidData model (.badColumn (l.column info))) := by
  by_cases h : isIdentifier (l.column info) = true
  · have sent := (statement_eq_ok_iff l style model info value _).2 ⟨h, rfl⟩
    rw [sent]
    simp [h]
  · have failed : l.statement style model info value =
        .error (.model (.invalidData model (.badColumn (l.column info)))) := by
      cases l <;> exact congrArg (· >>= _) (if_neg h)
    rw [failed]
    simp [h, eq_comm]

end Lookup

namespace Statement

def everythingFilled (info : Metadata) (limit : Option Nat) : Filled :=
  ⟨[⟨"select * from ".toList, ⟨.splice, tableEntry⟩, .one (.text info.tableName)⟩],
    (limitClause limit).toList⟩

theorem selectAll_isOk (style : PlaceholderStyle) (info : Metadata) (limit : Option Nat) :
    ∃ q, selectAll style info limit = .ok q := by
  have texts : ∀ s ∈ (everythingFilled info limit).slots, '\x7b' ∉ s.before := by
    simp [everythingFilled]
  have identifiers : ∀ s ∈ (everythingFilled info limit).slots,
      isIdentifier s.expression.identifier = true := by
    simp [everythingFilled, isIdentifier_tableEntry]
  have entries : ∀ s ∈ (everythingFilled info limit).slots,
      (tableData info).contains s.expression.identifier = true := by
    simp [everythingFilled, tableData_contains]
  have source : selectHead ++ limitClause limit = (everythingFilled info limit).template.source := by
    rw [everythingFilled, Filled.source_cons, Filled.source_nil, Expression.ofList_chars_splice]
    rfl
  obtain ⟨q, hq⟩ := Filled.bind_isOk texts (Lookup.brace_notMem_limitClause limit) identifiers
    entries source style
  exact ⟨q, liftBinding_eq_ok_iff.2 hq⟩

end Statement

inductive Generated where
  | insertion (data : Fields Json)
  | updating (data : Fields Json) (id : Scalar)
  | lookup (l : Lookup) (value : Scalar)
  | everything (limit : Option Nat)

namespace Generated

open Statement

def statement (style : PlaceholderStyle) (model : String) (info : Metadata) :
    Generated → Except Error Query
  | insertion data => Statement.insert style model info data
  | updating data id => Statement.update style model info data id
  | lookup l value => l.statement style model info value
  | everything limit => selectAll style info limit

def Valid (info : Metadata) : Generated → Prop
  | insertion data => ∀ field ∈ data.entries, field.1 ≠ info.primaryKey → Storable field
  | updating data _ =>
    isIdentifier info.primaryKey = true ∧
      (∀ field ∈ data.entries, field.1 ≠ info.primaryKey → Storable field) ∧
      ∃ field ∈ data.entries, field.1 ≠ info.primaryKey
  | lookup l _ => isIdentifier (l.column info) = true
  | everything _ => True

/-- The error of a statement that cannot be generated: an update looks at the key, then
at the fields, and then at whether there are any. -/
inductive Fault (model : String) (info : Metadata) : Generated → Error → Prop
  | insertedField (data : Fields Json) (e : Error)
      (first : FirstFieldFault model info.primaryKey data e) : Fault model info (insertion data) e
  | updateKey (data : Fields Json) (id : Scalar) (unplain : isIdentifier info.primaryKey = false) :
      Fault model info (updating data id)
        (.model (.invalidData model (.badColumn info.primaryKey)))
  | updatedField (data : Fields Json) (id : Scalar) (e : Error)
      (key : isIdentifier info.primaryKey = true)
      (first : FirstFieldFault model info.primaryKey data e) :
      Fault model info (updating data id) e
  | nothingToUpdate (data : Fields Json) (id : Scalar) (key : isIdentifier info.primaryKey = true)
      (alone : ∀ field ∈ data.entries, field.1 = info.primaryKey) :
      Fault model info (updating data id) (.model (.invalidData model .noFields))
  | column (l : Lookup) (value : Scalar) (unplain : isIdentifier (l.column info) = false) :
      Fault model info (lookup l value) (.model (.invalidData model (.badColumn (l.column info))))

theorem statement_eq_error_iff (g : Generated) (style : PlaceholderStyle) (model : String)
    (info : Metadata) (e : Error) :
    g.statement style model info = .error e ↔ g.Fault model info e := by
  cases g with
  | insertion data =>
    rw [statement, insert_eq_error_iff]
    exact ⟨.insertedField data e, fun h => by cases h; assumption⟩
  | updating data id =>
    rw [statement, update_eq_error_iff]
    constructor
    · rintro (⟨unplain, rfl⟩ | ⟨key, first | ⟨alone, rfl⟩⟩)
      · exact .updateKey data id unplain
      · exact .updatedField data id e key first
      · exact .nothingToUpdate data id key alone
    · intro h
      cases h with
      | updateKey _ _ unplain => exact .inl ⟨unplain, rfl⟩
      | updatedField _ _ _ key first => exact .inr ⟨key, .inl first⟩
      | nothingToUpdate _ _ key alone => exact .inr ⟨key, .inr ⟨alone, rfl⟩⟩
  | lookup l value =>
    rw [statement, Lookup.statement_eq_error_iff]
    constructor
    · rintro ⟨unplain, rfl⟩
      exact .column l value unplain
    · intro h
      cases h with
      | column _ _ unplain => exact ⟨unplain, rfl⟩
  | everything limit =>
    obtain ⟨q, hq⟩ := selectAll_isOk style info limit
    rw [statement, hq]
    constructor
    · intro h
      cases h
    · intro h
      cases h

theorem Fault.not_valid {g : Generated} {model : String} {info : Metadata} {e : Error}
    (h : g.Fault model info e) : ¬ g.Valid info := by
  intro valid
  cases h with
  | insertedField data e first => exact (exists_firstFieldFault_iff ..).1 ⟨e, first⟩ valid
  | updateKey data id unplain => exact absurd valid.1 (by simp [unplain])
  | updatedField data id e key first => exact (exists_firstFieldFault_iff ..).1 ⟨e, first⟩ valid.2.1
  | nothingToUpdate data id key alone =>
    obtain ⟨field, hfield, other⟩ := valid.2.2
    exact other (alone field hfield)
  | column l value unplain => simp [Valid, unplain] at valid

theorem exists_fault_of_not_valid {g : Generated} {info : Metadata} (model : String)
    (h : ¬ g.Valid info) : ∃ e, g.Fault model info e := by
  cases g with
  | insertion data =>
    obtain ⟨e, first⟩ := (exists_firstFieldFault_iff model info.primaryKey data).2 h
    exact ⟨e, .insertedField data e first⟩
  | updating data id =>
    by_cases key : isIdentifier info.primaryKey = true
    · by_cases storable : ∀ field ∈ data.entries, field.1 ≠ info.primaryKey → Storable field
      · have alone : ∀ field ∈ data.entries, field.1 = info.primaryKey := by
          intro field hfield
          by_contra other
          exact h ⟨key, storable, field, hfield, other⟩
        exact ⟨_, .nothingToUpdate data id key alone⟩
      · obtain ⟨e, first⟩ := (exists_firstFieldFault_iff model info.primaryKey data).2 storable
        exact ⟨e, .updatedField data id e key first⟩
    · exact ⟨_, .updateKey data id (by simpa using key)⟩
  | lookup l value => exact ⟨_, .column l value (by simpa [Valid] using h)⟩
  | everything limit => exact absurd trivial h

theorem Fault.cause {g : Generated} {model : String} {info : Metadata} {cause : BindingError}
    (h : g.Fault model info (.binding cause)) : ∃ name kind, cause = .invalidValue name kind := by
  have field {key : String} {data : Fields Json}
      (first : FirstFieldFault model key data (.binding cause)) :
      ∃ name kind, cause = .invalidValue name kind := by
    obtain ⟨field, -, -, fault, -⟩ := first
    cases fault
    exact ⟨_, _, rfl⟩
  cases h with
  | insertedField data e first => exact field first
  | updatedField data id e key first => exact field first

/-- Generated templates always bind: a statement is generated if and only if its key,
its columns and its values are valid, and otherwise the error is the fault that is
met first. Errors of the template itself never arise. -/
theorem statement_validated (g : Generated) (style : PlaceholderStyle) (model : String)
    (info : Metadata) :
    ((∃ q, g.statement style model info = .ok q) ↔ g.Valid info) ∧
    (∀ e, g.statement style model info = .error e ↔ g.Fault model info e) ∧
    (∀ offset template,
      g.statement style model info ≠ .error (.binding (.unclosed offset template))) ∧
    (∀ expression, g.statement style model info ≠ .error (.binding (.unknownFlag expression))) ∧
    ∀ identifier, g.statement style model info ≠ .error (.binding (.missing identifier)) := by
  have cause (cause : BindingError) (h : g.statement style model info = .error (.binding cause)) :
      ∃ name kind, cause = .invalidValue name kind :=
    ((statement_eq_error_iff ..).1 h).cause
  refine ⟨?_, statement_eq_error_iff g style model info, ?_, ?_, ?_⟩
  · rw [exists_ok_iff]
    simp only [statement_eq_error_iff]
    constructor
    · intro sound
      by_contra invalid
      exact sound (exists_fault_of_not_valid model invalid)
    · rintro valid ⟨e, fault⟩
      exact fault.not_valid valid
  · intro offset template h
    obtain ⟨_, _, other⟩ := cause _ h
    cases other
  · intro expression h
    obtain ⟨_, _, other⟩ := cause _ h
    cases other
  · intro identifier h
    obtain ⟨_, _, other⟩ := cause _ h
    cases other

example : ((updating (Fields.empty.insert "__table" (.str "t")) (.int 1)).statement .dollar "Note"
    ⟨"id", "notes", "note_id"⟩).toOption =
      some ⟨"update t set __table = $1 where id = $2", [.text "t", .int 1]⟩ := by
  decide +kernel

end Generated

end SqlMapper

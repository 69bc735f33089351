import SqlMapper.Proofs.Generated
import SqlMapper.Proofs.Planning

/-!
Lookups by one column: selections by the primary key or by another column, and
deletions. The text of a lookup is made of names alone, and its value is a
parameter, for every column but one. Under the column `__table` the value takes
the place of the table in the data of the template and is spliced, although every
value is meant to be a parameter.
-/

namespace SqlMapper

inductive Lookup where
  | byKey
  | byColumn (column : String) (limit : Option Nat)
  | deletion

namespace Lookup

open Statement

def statement (l : Lookup) (style : PlaceholderStyle) (model : String) (info : Metadata)
    (value : Scalar) : Except Error Query :=
  match l with
  | byKey => selectByKey style model info value
  | byColumn column limit => selectByColumn style model info column value limit
  | deletion => Statement.delete style model info value

def verb : Lookup → String
  | deletion => "delete from "
  | _ => "select * from "

def column (info : Metadata) : Lookup → String
  | byColumn column _ => column
  | _ => info.primaryKey

def limit : Lookup → Option Nat
  | byColumn _ limit => limit
  | _ => none

def text (style : PlaceholderStyle) (info : Metadata) (l : Lookup) (table : String) : String :=
  l.verb ++ table ++ " where " ++ l.column info ++ " = " ++ style.marker 1 ++ limitClause l.limit

/-- The entry under the key of the table: a value under the same name replaces it. -/
def spliced (info : Metadata) (column : String) (value : Scalar) : Scalar :=
  if column = tableEntry then value else .text info.tableName

theorem spliced_of_ne {column : String} (h : column ≠ tableEntry) (info : Metadata)
    (value : Scalar) : (spliced info column value).literal = info.tableName := by
  rw [spliced, if_neg h]
  rfl

theorem spliced_tableEntry (info : Metadata) (value : Scalar) :
    spliced info tableEntry value = value := if_pos rfl

def filled (verb : String) (info : Metadata) (column : String) (value : Scalar)
    (limit : Option Nat) : Filled :=
  ⟨[⟨verb.toList, ⟨.splice, tableEntry⟩, .one (spliced info column value)⟩,
    ⟨" where ".toList, ⟨.equal, column⟩, .one value⟩], (limitClause limit).toList⟩

theorem filled_foundIn {column : String} (hc : isIdentifier column = true) (verb : String)
    (info : Metadata) (value : Scalar) (limit : Option Nat) :
    (filled verb info column value limit).FoundIn
      ((tableData info).insert column (toBindable value)) := by
  have table : ((tableData info).insert column (toBindable value)).get? tableEntry =
      some (.one (spliced info column value)) := by
    rw [Fields.get?_insert]
    by_cases h : column = tableEntry
    · rw [if_pos h.symm, h, spliced_tableEntry]
      rfl
    · rw [if_neg (Ne.symm h), tableData_get?, spliced, if_neg h]
  have named : ((tableData info).insert column (toBindable value)).get? column =
      some (.one value) := by
    rw [Fields.get?_insert, if_pos rfl]
    rfl
  exact Filled.foundIn_cons.2 ⟨⟨isIdentifier_tableEntry, table⟩,
    Filled.foundIn_cons.2 ⟨⟨hc, named⟩, by simp, by simp⟩⟩

theorem filled_source (verb : String) (info : Metadata) (column : String) (value : Scalar)
    (limit : Option Nat) :
    (filled verb info column value limit).template.source =
      verb ++ table ++ " where " ++ braced ("=" ++ column) ++ limitClause limit := by
  simp only [filled, Filled.source_cons, Filled.source_nil, Expression.ofList_chars_splice,
    Expression.ofList_chars_equal, table, String.append_assoc]

theorem filled_query {column : String} (hc : isIdentifier column = true) (style : PlaceholderStyle)
    (verb : String) (info : Metadata) (value : Scalar) (limit : Option Nat) :
    (filled verb info column value limit).query style 0 =
      ⟨verb ++ (spliced info column value).literal ++ " where " ++ column ++ " = " ++
        style.marker 1 ++ limitClause limit, [value]⟩ := by
  simp only [filled, Filled.query_cons, Filled.query_nil, Slot.values_eq, Expression.values_splice,
    Expression.values_equal, Expression.render_splice_one, Expression.render_equal hc,
    List.length_nil, Nat.add_zero, Nat.zero_add, String.ofList_toList, Query.mk_append,
    List.nil_append, List.append_nil, String.append_assoc]

theorem brace_notMem_limitClause (limit : Option Nat) : '\x7b' ∉ (limitClause limit).toList := by
  cases limit with
  | none => simp [limitClause]
  | some n =>
    have digits : '\x7b' ∉ Nat.toDigits 10 n := by
      intro h
      exact absurd (Nat.isDigit_of_mem_toDigits (by decide) (by decide) h) (by decide)
    simp [limitClause, digits]

theorem whereColumn_eq_ok_iff {verb : String} (hverb : '\x7b' ∉ verb.toList)
    (style : PlaceholderStyle) (model : String) (info : Metadata) (column : String)
    (value : Scalar) (limit : Option Nat) (q : Query) :
    whereColumn style model info (verb ++ table) column value limit = .ok q ↔
      isIdentifier column = true ∧
        q = ⟨verb ++ (spliced info column value).literal ++ " where " ++ column ++ " = " ++
          style.marker 1 ++ limitClause limit, [value]⟩ := by
  by_cases hc : isIdentifier column = true
  · have texts : ∀ s ∈ (filled verb info column value limit).slots, '\x7b' ∉ s.before := by
      simp [filled, hverb]
    have bound := Filled.bind_eq_query texts (brace_notMem_limitClause limit)
      (filled_foundIn hc verb info value limit) (filled_source verb info column value limit).symm style
    rw [whereColumn, checkColumn, if_pos hc, ok_bind, liftBinding_eq_ok_iff, bound,
      filled_query hc]
    simp [hc, eq_comm]
  · rw [whereColumn, checkColumn, if_neg hc, error_bind]
    simp [hc]

theorem statement_eq_ok_iff (l : Lookup) (style : PlaceholderStyle) (model : String)
    (info : Metadata) (value : Scalar) (q : Query) :
    l.statement style model info value = .ok q ↔
      isIdentifier (l.column info) = true ∧
        q = ⟨l.text style info (spliced info (l.column info) value).literal, [value]⟩ := by
  have select : '\x7b' ∉ "select * from ".toList := by decide
  have delete : '\x7b' ∉ "delete from ".toList := by decide
  cases l with
  | byKey => exact whereColumn_eq_ok_iff select _ _ _ _ _ _ _
  | byColumn column limit => exact whereColumn_eq_ok_iff select _ _ _ _ _ _ _
  | deletion => exact whereColumn_eq_ok_iff delete _ _ _ _ _ _ _

theorem text_inj (style : PlaceholderStyle) (info : Metadata) (l : Lookup) {a b : String} :
    l.text style info a = l.text style info b ↔ a = b := by
  refine ⟨fun h => ?_, fun h => h ▸ rfl⟩
  have chars := congrArg String.toList h
  simp only [text, String.toList_append, List.append_cancel_right_eq,
    List.append_cancel_left_eq] at chars
  exact String.toList_inj.1 chars

theorem spliced_eq_table_iff (info : Metadata) (column : String) (value : Scalar) :
    (spliced info column value).literal = info.tableName ↔
      column ≠ tableEntry ∨ value.literal = info.tableName := by
  by_cases h : column = tableEntry
  · simp [h, spliced_tableEntry]
  · simp [h, spliced_of_ne]

theorem spliced_eq_iff (info : Metadata) (column : String) (v v' : Scalar) :
    (spliced info column v).literal = (spliced info column v').literal ↔
      column ≠ tableEntry ∨ v.literal = v'.literal := by
  by_cases h : column = tableEntry
  · simp [h, spliced_tableEntry]
  · simp [h, spliced_of_ne]

end Lookup

def Operation.ReadsByKey : {α : Type} → Operation α → Prop
  | _, .findOne .. => True
  | _, .belongsTo .. => True
  | _, .hasOne .. => True
  | _, .hasMany .. => True
  | _, _ => False

inductive Operation.Reads (s : Settings) (c : Cache) :
    {γ : Type} → Operation γ → Lookup → String → Metadata → Scalar → Prop
  | findOne {α : Type} (m : Model α) (id : Scalar) :
    Reads s c (.findOne m id) .byKey m.name (Planning.found s c m).1 id
  | belongsTo {α β : Type} (child : Model α) (parent : Model β) (a : α) (fields : Fields Json)
    (id : Scalar) (data : child.data a = .ok fields)
    (key : foreignKey child (Planning.found s c parent).1.relationKey fields = .ok (some id)) :
    Reads s c (.belongsTo child parent a) .byKey parent.name (Planning.found s c parent).1 id
  | hasOne {α β : Type} (parent : Model α) (child : Model β) (a : α) (fields : Fields Json)
    (id : Scalar) (data : parent.data a = .ok fields)
    (key : parent.requireKey (Planning.found s c parent).1 fields = .ok id) :
    Reads s c (.hasOne parent child a)
      (.byColumn (Planning.found s c parent).1.relationKey (some 1)) child.name
      (Planning.found s (Planning.found s c parent).2 child).1 id
  | hasMany {α β : Type} (parent : Model α) (child : Model β) (a : α) (fields : Fields Json)
    (id : Scalar) (data : parent.data a = .ok fields)
    (key : parent.requireKey (Planning.found s c parent).1 fields = .ok id) :
    Reads s c (.hasMany parent child a)
      (.byColumn (Planning.found s c parent).1.relationKey none) child.name
      (Planning.found s (Planning.found s c parent).2 child).1 id

namespace Operation

open Planning

variable {α β γ : Type}

theorem sends_findOneWith {s : Settings} {m : Model α} {id : Scalar} {info : Metadata}
    {side : Side} {q : Query} :
    Sends side q (findOneWith s m id info) ↔
      side = .reader ∧ Lookup.byKey.statement s.placeholder m.name info id = .ok q :=
  sends_query

theorem sends_belongsToWith {s : Settings} {child : Model α} {parent : Model β} {a : α}
    {info : Metadata} {side : Side} {q : Query}
    (h : Sends side q (belongsToWith s child parent a info)) :
    ∃ fields id, child.data a = .ok fields ∧
      foreignKey child info.relationKey fields = .ok (some id) ∧
      side = .reader ∧ Lookup.byKey.statement s.placeholder parent.name info id = .ok q := by
  obtain ⟨fields, hdata, h⟩ := sends_bind.1 h
  obtain ⟨key, hkey, h⟩ := sends_bind.1 h
  cases key with
  | none => exact absurd h not_sends_answer
  | some id => exact ⟨fields, id, liftModel_eq_ok_iff.1 hdata, hkey, sends_findOneWith.1 h⟩

theorem sends_childrenWith {s : Settings} {parent : Model α} {child : Model β} {a : α}
    {limit : Option Nat} {finish : Outcome → Except Error γ} {info childInfo : Metadata}
    {side : Side} {q : Query}
    (h : Sends side q (childrenWith s parent child a limit finish info childInfo)) :
    ∃ fields id, parent.data a = .ok fields ∧ parent.requireKey info fields = .ok id ∧
      side = .reader ∧ (Lookup.byColumn info.relationKey limit).statement s.placeholder child.name
        childInfo id = .ok q := by
  obtain ⟨fields, hdata, h⟩ := sends_bind.1 h
  obtain ⟨id, hkey, h⟩ := sends_bind.1 h
  exact ⟨fields, id, liftModel_eq_ok_iff.1 hdata, liftModel_eq_ok_iff.1 hkey, sends_query.1 h⟩

theorem reads_of_sent {s : Settings} {c : Cache} {op : Operation γ} (hop : op.ReadsByKey)
    {side : Side} {q : Query} (h : op.sent s c = some (side, q)) :
    side = .reader ∧ ∃ l model info value, Reads s c op l model info value ∧
      l.statement s.placeholder model info value = .ok q := by
  have sends := sent_eq_some_iff.1 h
  cases op with
  | findOne m id =>
    rw [plan, eval_planFindOne] at sends
    obtain ⟨hside, hq⟩ := sends_findOneWith.1 sends
    exact ⟨hside, _, _, _, _, .findOne m id, hq⟩
  | belongsTo child parent a =>
    rw [plan, eval_planBelongsTo] at sends
    obtain ⟨fields, id, hdata, hkey, hside, hq⟩ := sends_belongsToWith sends
    exact ⟨hside, _, _, _, _, .belongsTo child parent a fields id hdata hkey, hq⟩
  | hasOne parent child a =>
    rw [plan, eval_planChildren] at sends
    obtain ⟨fields, id, hdata, hkey, hside, hq⟩ := sends_childrenWith sends
    exact ⟨hside, _, _, _, _, .hasOne parent child a fields id hdata hkey, hq⟩
  | hasMany parent child a =>
    rw [plan, eval_planChildren] at sends
    obtain ⟨fields, id, hdata, hkey, hside, hq⟩ := sends_childrenWith sends
    exact ⟨hside, _, _, _, _, .hasMany parent child a fields id hdata hkey, hq⟩
  | _ => exact absurd hop id

end Operation

/-- A lookup succeeds exactly on identifiers, with its value as the only
parameter. Its text is the one with the table of the metadata, and the same for
all values, if and only if the column is not the key under which the table stands
in the data, or the literals happen to agree. Whatever an operation reads by a
key, under any names of its models, is such a lookup. -/
theorem Lookup.statement_intended_iff (l : Lookup) (style : PlaceholderStyle) (model : String)
    (info : Metadata) :
    (∀ value q, l.statement style model info value = .ok q ↔
      isIdentifier (l.column info) = true ∧
        q.sql = l.text style info
          (if l.column info = Statement.tableEntry then value.literal else info.tableName) ∧
        q.params = [value]) ∧
    (∀ value q, l.statement style model info value = .ok q →
      (q.sql = l.text style info info.tableName ↔
        l.column info ≠ Statement.tableEntry ∨ value.literal = info.tableName)) ∧
    (∀ v v' q q', l.statement style model info v = .ok q →
      l.statement style model info v' = .ok q' →
        (q.sql = q'.sql ↔ l.column info ≠ Statement.tableEntry ∨ v.literal = v'.literal)) ∧
    ∀ (s : Settings) (c : Cache) (γ : Type) (op : Operation γ), op.ReadsByKey →
      ∀ side q, op.sent s c = some (side, q) →
        side = .reader ∧ ∃ l model info value, op.Reads s c l model info value ∧
          l.statement s.placeholder model info value = .ok q := by
  refine ⟨?_, ?_, ?_, fun s c γ op hop side q h => Operation.reads_of_sent hop h⟩
  · intro value q
    have literal : (spliced info (l.column info) value).literal =
        if l.column info = Statement.tableEntry then value.literal else info.tableName := by
      rw [spliced]
      split <;> rfl
    rw [statement_eq_ok_iff, literal]
    obtain ⟨sql, params⟩ := q
    simp only [Query.mk.injEq]
  · intro value q h
    obtain ⟨-, rfl⟩ := (statement_eq_ok_iff _ _ _ _ _ _).1 h
    rw [text_inj, spliced_eq_table_iff]
  · intro v v' q q' h h'
    obtain ⟨-, rfl⟩ := (statement_eq_ok_iff _ _ _ _ _ _).1 h
    obtain ⟨-, rfl⟩ := (statement_eq_ok_iff _ _ _ _ _ _).1 h'
    rw [text_inj, spliced_eq_iff]

/-- Under the primary key `__table` a value becomes text of the statement. -/
theorem Lookup.byKey_splices_value :
    ∃ q, byKey.statement .question "Note" ⟨"__table", "notes", "note_id"⟩
        (.text "notes; drop table notes; --") = .ok q ∧
      q.sql = "select * from notes; drop table notes; -- where __table = ?" ∧
      q.sql ≠ byKey.text .question ⟨"__table", "notes", "note_id"⟩ "notes" := by
  refine ⟨⟨"select * from notes; drop table notes; -- where __table = ?",
    [.text "notes; drop table notes; --"]⟩, toOption_eq_some_iff.1 (by decide +kernel), rfl,
    by decide⟩

end SqlMapper

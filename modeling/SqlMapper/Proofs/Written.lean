import SqlMapper.Proofs.Lookup

/-!
Generated statements that write. Their columns are the fields apart from the
primary key in the order of the names, their values are parameters in the same
order, and the text is made of the names of the table and the columns alone.
-/

namespace SqlMapper.Statement

/-- The text `insert into T (f1, ..., fn) values (m1, ..., mn)`. -/
def insertion (style : PlaceholderStyle) (table : String) (columns : List String) : String :=
  "insert into " ++ table ++ " (" ++ String.intercalate ", " columns ++ ") values (" ++
    style.markerList 0 columns.length ++ ")"

def assignments (style : PlaceholderStyle) (bound : Nat) (columns : List String) : String :=
  String.intercalate ", " (columns.mapIdx fun i c => c ++ " = " ++ style.marker (bound + i + 1))

/-- The text `update T set f1 = m1, ..., fn = mn where pk = m(n+1)`. -/
def updating (style : PlaceholderStyle) (table : String) (columns : List String) (key : String) :
    String :=
  "update " ++ table ++ " set " ++ assignments style 0 columns ++ " where " ++ key ++ " = " ++
    style.marker (columns.length + 1)

def deletion (style : PlaceholderStyle) (table key : String) : String :=
  "delete from " ++ table ++ " where " ++ key ++ " = " ++ style.marker 1

structure Columns (fields : List (String × Json)) (written : List (String × Scalar)) : Prop where
  words : ∀ f ∈ fields, isIdentifier f.1 = true
  names : written.map Prod.fst = fields.map Prod.fst
  scalars : List.Forall₂ (fun f v => Scalar.ofJson? f.2 = some v) fields (written.map Prod.snd)

theorem Columns.field {fields : List (String × Json)} {written : List (String × Scalar)}
    (h : Columns fields written) {c : String × Scalar} (hc : c ∈ written) :
    ∃ f ∈ fields, f.1 = c.1 := by
  have name : c.1 ∈ written.map Prod.fst := List.mem_map_of_mem hc
  rw [h.names] at name
  exact List.mem_map.1 name

theorem Columns.word {fields : List (String × Json)} {written : List (String × Scalar)}
    (h : Columns fields written) {c : String × Scalar} (hc : c ∈ written) :
    isIdentifier c.1 = true := by
  obtain ⟨f, hf, name⟩ := h.field hc
  exact name ▸ h.words f hf

theorem Columns.names_eq {fields fields' : Fields Json} {name : String}
    {written written' : List (String × Scalar)} (h : Columns (fields.others name) written)
    (h' : Columns (fields'.others name) written') (names : fields.keys = fields'.keys) :
    written.map Prod.fst = written'.map Prod.fst := by
  rw [h.names, h'.names, Fields.keys_others, Fields.keys_others, names]

theorem column_eq_ok_iff (model : String) (field : String × Json) (c : String × Scalar) :
    column model field = .ok c ↔
      isIdentifier field.1 = true ∧ c.1 = field.1 ∧ Scalar.ofJson? field.2 = some c.2 := by
  obtain ⟨name, v⟩ := c
  by_cases hi : isIdentifier field.1 = true
  · rw [column, checkColumn, if_pos hi, ok_bind, scalarFor]
    cases hs : Scalar.ofJson? field.2 with
    | none => simp [liftBinding, Except.mapError]
    | some s =>
      show Except.ok (field.1, s) = Except.ok (name, v) ↔ _
      simp [hi, eq_comm]
  · rw [column, checkColumn, if_neg hi, error_bind]
    simp [hi]

theorem mapM_column_eq_ok_iff (model : String) (fields : List (String × Json))
    (written : List (String × Scalar)) :
    fields.mapM (column model) = .ok written ↔ Columns fields written := by
  rw [mapM_eq_ok_iff]
  refine ⟨fun h => ?_, fun h => ?_⟩
  · induction h with
    | nil => exact ⟨by simp, rfl, .nil⟩
    | cons hc _ ih =>
      obtain ⟨hi, hn, hs⟩ := (column_eq_ok_iff _ _ _).1 hc
      refine ⟨?_, ?_, .cons hs ih.scalars⟩
      · simp only [List.mem_cons, forall_eq_or_imp]
        exact ⟨hi, ih.words⟩
      · rw [List.map_cons, List.map_cons, hn, ih.names]
  · induction fields generalizing written with
    | nil =>
      rw [List.map_eq_nil_iff.1 h.names]
      exact .nil
    | cons f rest ih =>
      obtain ⟨words, names, scalars⟩ := h
      cases written with
      | nil => cases names
      | cons c written =>
        simp only [List.map_cons, List.cons.injEq, List.forall₂_cons] at names scalars
        have head := (column_eq_ok_iff model f c).2 ⟨words f (by simp), names.1, scalars.1⟩
        have tail := ih written
          ⟨fun x hx => words x (List.mem_cons_of_mem _ hx), names.2, scalars.2⟩
        exact .cons head tail

theorem columns_eq_ok_iff (model : String) (info : Metadata) (data : Fields Json)
    (written : List (String × Scalar)) :
    columns model info data = .ok written ↔ Columns (data.others info.primaryKey) written :=
  mapM_column_eq_ok_iff _ _ _

def insertFilled (info : Metadata) (written : List (String × Scalar)) : Filled :=
  ⟨[⟨"insert into ".toList, ⟨.splice, tableEntry⟩, .one (.text info.tableName)⟩,
    ⟨" (".toList, ⟨.splice, fieldsEntry⟩, .many (written.map fun c => .text c.1)⟩,
    ⟨") values (".toList, ⟨.list, valuesEntry⟩, .many (written.map Prod.snd)⟩], ")".toList⟩

theorem insertFilled_query (style : PlaceholderStyle) (info : Metadata)
    (written : List (String × Scalar)) :
    (insertFilled info written).query style 0 =
      ⟨insertion style info.tableName (written.map Prod.fst), written.map Prod.snd⟩ := by
  have table : (Scalar.text info.tableName).literal = info.tableName := rfl
  have names : (written.map fun c => Scalar.text c.1).map Scalar.literal = written.map Prod.fst := by
    rw [List.map_map]
    rfl
  show _ = Query.mk ("insert into " ++ info.tableName ++ " (" ++
    String.intercalate ", " (written.map Prod.fst) ++ ") values (" ++
      style.markerList 0 (written.map Prod.fst).length ++ ")") _
  simp only [insertFilled, Filled.query_cons, Filled.query_nil, Slot.values_eq,
    Expression.values_splice, Expression.values_list, Expression.render_splice_one,
    Expression.render_splice_many, Expression.render_list, table, names,
    List.length_nil, List.length_map, Nat.add_zero, Nat.zero_add, String.ofList_toList,
    Query.mk_append, List.nil_append, List.append_nil, String.append_assoc]

theorem insertFilled_foundIn (info : Metadata) (written : List (String × Scalar)) :
    (insertFilled info written).FoundIn
      (((tableData info).insert fieldsEntry (toBindable (written.map Prod.fst))).insert
        valuesEntry (toBindable (written.map Prod.snd))) := by
  have table : tableEntry ≠ valuesEntry ∧ tableEntry ≠ fieldsEntry := by decide
  have fields : fieldsEntry ≠ valuesEntry := by decide
  have identifiers : isIdentifier fieldsEntry = true ∧ isIdentifier valuesEntry = true := by decide
  have names : toBindable (written.map Prod.fst) = .many (written.map fun c => .text c.1) := by
    show Bindable.many ((written.map Prod.fst).map Scalar.text) = _
    rw [List.map_map]
    rfl
  have values : toBindable (written.map Prod.snd) = .many (written.map Prod.snd) := by
    show Bindable.many ((written.map Prod.snd).map id) = _
    rw [List.map_id]
  rw [names, values]
  refine Filled.foundIn_cons.2 ⟨⟨isIdentifier_tableEntry, ?_⟩,
    Filled.foundIn_cons.2 ⟨⟨identifiers.1, ?_⟩,
      Filled.foundIn_cons.2 ⟨⟨identifiers.2, ?_⟩, by simp, by simp⟩⟩⟩
  · rw [Fields.get?_insert, if_neg table.1, Fields.get?_insert, if_neg table.2, tableData_get?]
  · rw [Fields.get?_insert, if_neg fields, Fields.get?_insert, if_pos rfl]
  · rw [Fields.get?_insert, if_pos rfl]

theorem insert_bind_eq (style : PlaceholderStyle) (info : Metadata)
    (written : List (String × Scalar)) :
    Binding.bind style ("insert into " ++ table ++ " (" ++ braced ("*" ++ fieldsEntry) ++
      ") values (" ++ braced valuesEntry ++ ")")
      (((tableData info).insert fieldsEntry (toBindable (written.map Prod.fst))).insert
        valuesEntry (toBindable (written.map Prod.snd))) =
    .ok ⟨insertion style info.tableName (written.map Prod.fst), written.map Prod.snd⟩ := by
  have texts : ∀ s ∈ (insertFilled info written).slots, '\x7b' ∉ s.before := by simp [insertFilled]
  have tail : '\x7b' ∉ (insertFilled info written).tail := by simp [insertFilled]
  rw [← insertFilled_query]
  refine Filled.bind_eq_query texts tail (insertFilled_foundIn info written) ?_ style
  simp only [insertFilled, Filled.source_cons, Filled.source_nil,
    Expression.ofList_chars_splice, Expression.ofList_chars_list, table, String.append_assoc]

theorem insert_eq_ok_iff (style : PlaceholderStyle) (model : String) (info : Metadata)
    (data : Fields Json) (q : Query) :
    Statement.insert style model info data = .ok q ↔
      ∃ written, Columns (data.others info.primaryKey) written ∧
        q = ⟨insertion style info.tableName (written.map Prod.fst), written.map Prod.snd⟩ := by
  rw [Statement.insert, bind_eq_ok_iff]
  refine exists_congr fun written => ?_
  rw [columns_eq_ok_iff, liftBinding_eq_ok_iff, insert_bind_eq, Except.ok.injEq, eq_comm]

theorem assignments_singleton (style : PlaceholderStyle) (bound : Nat) (column : String) :
    assignments style bound [column] = column ++ " = " ++ style.marker (bound + 1) :=
  String.intercalate_singleton

theorem assignments_cons_cons (style : PlaceholderStyle) (bound : Nat) (c d : String)
    (columns : List String) :
    assignments style bound (c :: d :: columns) =
      c ++ " = " ++ style.marker (bound + 1) ++ ", " ++
        assignments style (bound + 1) (d :: columns) := by
  have shift : ∀ i, bound + (i + 1) + 1 = bound + 1 + i + 1 := fun i => by omega
  simp only [assignments, List.mapIdx_cons, String.intercalate_cons_cons, Nat.add_zero, shift]

def assignmentSlots (lead : String) : List (String × Scalar) → List Slot
  | [] => []
  | c :: rest => ⟨lead.toList, ⟨.equal, c.1⟩, .one c.2⟩ :: assignmentSlots ", " rest

theorem mem_assignmentSlots {lead : String} {written : List (String × Scalar)} {s : Slot}
    (h : s ∈ assignmentSlots lead written) :
    (s.before = lead.toList ∨ s.before = ", ".toList) ∧
      ∃ c ∈ written, s.expression = ⟨.equal, c.1⟩ ∧ s.value = .one c.2 := by
  induction written generalizing lead with
  | nil => cases h
  | cons c rest ih =>
    rcases List.mem_cons.1 h with rfl | h
    · exact ⟨.inl rfl, c, by simp, rfl, rfl⟩
    · obtain ⟨before, d, hd, hs⟩ := ih h
      exact ⟨.inr (by simpa using before), d, List.mem_cons_of_mem _ hd, hs⟩

theorem assignmentSlots_source (lead : String) {written : List (String × Scalar)}
    (nonempty : written ≠ []) (slots : List Slot) (tail : List Char) :
    (Filled.template ⟨assignmentSlots lead written ++ slots, tail⟩).source =
      lead ++ String.intercalate ", " (written.map fun c => braced ("=" ++ c.1)) ++
        (Filled.template ⟨slots, tail⟩).source := by
  induction written generalizing lead with
  | nil => exact absurd rfl nonempty
  | cons c rest ih =>
    rw [assignmentSlots, List.cons_append, Filled.source_cons, Expression.ofList_chars_equal]
    cases rest with
    | nil => rw [List.map_singleton, String.intercalate_singleton]; rfl
    | cons d rest =>
      rw [ih ", " (by simp)]
      simp only [List.map_cons, String.intercalate_cons_cons, String.append_assoc]

theorem assignmentSlots_query (style : PlaceholderStyle) (bound : Nat) (lead : String)
    {written : List (String × Scalar)} (nonempty : written ≠ [])
    (words : ∀ c ∈ written, isIdentifier c.1 = true) (slots : List Slot) (tail : List Char) :
    Filled.query style bound ⟨assignmentSlots lead written ++ slots, tail⟩ =
      ⟨lead ++ assignments style bound (written.map Prod.fst), written.map Prod.snd⟩ ++
        Filled.query style (bound + written.length) ⟨slots, tail⟩ := by
  induction written generalizing lead bound with
  | nil => exact absurd rfl nonempty
  | cons c rest ih =>
    have here := Expression.render_equal (words c (by simp)) c.2 style bound
    rw [assignmentSlots, List.cons_append, Filled.query_cons, Slot.values_eq,
      Expression.values_equal, here, String.ofList_toList, List.length_singleton]
    cases rest with
    | nil =>
      rw [List.map_singleton, List.map_singleton, assignments_singleton]
      rfl
    | cons d rest =>
      have count : bound + 1 + (d :: rest).length = bound + (c :: d :: rest).length := by
        simp only [List.length_cons]
        omega
      rw [ih (bound + 1) ", " (by simp) (fun x hx => words x (List.mem_cons_of_mem _ hx)), count,
        ← Query.append_assoc]
      refine congrArg (· ++ _) ?_
      rw [Query.mk_append]
      simp only [List.map_cons, assignments_cons_cons, String.append_assoc, List.singleton_append]

def updateFilled (info : Metadata) (written : List (String × Scalar)) (id : Scalar) : Filled :=
  ⟨⟨"update ".toList, ⟨.splice, tableEntry⟩, .one (.text info.tableName)⟩ ::
    (assignmentSlots " set " written ++
      [⟨" where ".toList, ⟨.equal, info.primaryKey⟩, .one id⟩]), "".toList⟩

theorem updateFilled_source (info : Metadata) {written : List (String × Scalar)}
    (nonempty : written ≠ []) (id : Scalar) :
    (updateFilled info written id).template.source =
      "update " ++ table ++ " set " ++
        String.intercalate ", " (written.map fun c => braced ("=" ++ c.1)) ++ " where " ++
        braced ("=" ++ info.primaryKey) := by
  rw [updateFilled, Filled.source_cons, assignmentSlots_source _ nonempty, Filled.source_cons,
    Filled.source_nil, Expression.ofList_chars_splice, Expression.ofList_chars_equal]
  simp only [table, String.append_assoc, String.append_empty]

theorem updateFilled_query (style : PlaceholderStyle) (info : Metadata)
    {written : List (String × Scalar)} (nonempty : written ≠ [])
    (words : ∀ c ∈ written, isIdentifier c.1 = true) (key : isIdentifier info.primaryKey = true)
    (id : Scalar) :
    (updateFilled info written id).query style 0 =
      ⟨updating style info.tableName (written.map Prod.fst) info.primaryKey,
        written.map Prod.snd ++ [id]⟩ := by
  have table : (Scalar.text info.tableName).literal = info.tableName := rfl
  rw [updateFilled, Filled.query_cons, assignmentSlots_query _ _ _ nonempty words, Filled.query_cons,
    Filled.query_nil]
  show _ = Query.mk ("update " ++ info.tableName ++ " set " ++
    assignments style 0 (written.map Prod.fst) ++ " where " ++ info.primaryKey ++ " = " ++
      style.marker ((written.map Prod.fst).length + 1)) _
  simp only [Slot.values_eq, Expression.values_splice, Expression.values_equal,
    Expression.render_splice_one, Expression.render_equal key, table, List.length_nil,
    List.length_map, Nat.zero_add, String.ofList_toList,
    Query.mk_append, List.nil_append, List.append_nil, String.append_empty, String.append_assoc]

theorem updateFilled_texts (info : Metadata) (written : List (String × Scalar)) (id : Scalar) :
    ∀ s ∈ (updateFilled info written id).slots, '\x7b' ∉ s.before := by
  intro s hs
  rcases List.mem_cons.1 hs with rfl | hs
  · simp
  rcases List.mem_append.1 hs with hs | hs
  · rcases (mem_assignmentSlots hs).1 with before | before
    · simp [before]
    · simp [before]
  · simp [List.mem_singleton.1 hs]

theorem updateFilled_foundIn {info : Metadata} {data : Fields Json}
    {written : List (String × Scalar)} (columns : Columns (data.others info.primaryKey) written)
    (plain : tableEntry ∉ data.keys) (key : isIdentifier info.primaryKey = true)
    (other : info.primaryKey ≠ tableEntry) (id : Scalar) :
    (updateFilled info written id).FoundIn
      (((tableData info).insertAll (written.map fun c => (c.1, toBindable c.2))).insert
        info.primaryKey (toBindable id)) := by
  have names : (written.map fun c => (c.1, toBindable c.2)).map Prod.fst =
      (data.others info.primaryKey).map Prod.fst := by
    rw [List.map_map, ← columns.names]
    rfl
  have tableFound : ((tableData info).insertAll (written.map fun c => (c.1, toBindable c.2))).get?
      tableEntry = some (.one (.text info.tableName)) := by
    have absent : tableEntry ∉ (written.map fun c => (c.1, toBindable c.2)).map Prod.fst := by
      rw [names]
      intro h
      obtain ⟨f, hf, name⟩ := List.mem_map.1 h
      exact plain (name ▸ List.mem_map_of_mem ((data.mem_others _ f).1 hf).1)
    rw [Fields.get?_insertAll_of_notMem absent, tableData_get?]
  have columnFound : ∀ c ∈ written,
      ((tableData info).insertAll (written.map fun c => (c.1, toBindable c.2))).get? c.1 =
        some (.one c.2) := by
    intro c hc
    have distinct : ((written.map fun c => (c.1, toBindable c.2)).map Prod.fst).Nodup := by
      rw [names]
      exact data.nodup_others _
    exact Fields.get?_insertAll_of_mem distinct (List.mem_map_of_mem hc) _
  have apart : ∀ c ∈ written, c.1 ≠ info.primaryKey := by
    intro c hc
    obtain ⟨f, hf, name⟩ := columns.field hc
    exact name ▸ ((data.mem_others _ f).1 hf).2
  refine Filled.foundIn_cons.2 ⟨⟨isIdentifier_tableEntry, ?_⟩, ?_, ?_⟩
  · rw [Fields.get?_insert, if_neg other.symm, tableFound]
  · intro s hs
    rcases List.mem_append.1 hs with hs | hs
    · obtain ⟨-, c, hc, expression, -⟩ := mem_assignmentSlots hs
      rw [expression]
      exact columns.word hc
    · rw [List.mem_singleton.1 hs]
      exact key
  · intro s hs
    rcases List.mem_append.1 hs with hs | hs
    · obtain ⟨-, c, hc, expression, value⟩ := mem_assignmentSlots hs
      rw [expression, value, Fields.get?_insert, if_neg (apart c hc), columnFound c hc]
    · rw [List.mem_singleton.1 hs, Fields.get?_insert, if_pos rfl]
      rfl

theorem update_bind_eq (style : PlaceholderStyle) {info : Metadata} {data : Fields Json}
    {written : List (String × Scalar)} (columns : Columns (data.others info.primaryKey) written)
    (nonempty : written ≠ []) (plain : tableEntry ∉ data.keys)
    (key : isIdentifier info.primaryKey = true) (other : info.primaryKey ≠ tableEntry)
    (id : Scalar) :
    Binding.bind style ("update " ++ table ++ " set " ++
      String.intercalate ", " (written.map fun c => braced ("=" ++ c.1)) ++ " where " ++
        braced ("=" ++ info.primaryKey))
      (((tableData info).insertAll (written.map fun c => (c.1, toBindable c.2))).insert
        info.primaryKey (toBindable id)) =
    .ok ⟨updating style info.tableName (written.map Prod.fst) info.primaryKey,
      written.map Prod.snd ++ [id]⟩ := by
  have tail : '\x7b' ∉ (updateFilled info written id).tail := by simp [updateFilled]
  have found := updateFilled_foundIn columns plain key other id
  have source := updateFilled_source info nonempty id
  rw [← updateFilled_query style info nonempty (fun c hc => columns.word hc) key]
  exact Filled.bind_eq_query (updateFilled_texts info written id) tail found source.symm style

theorem update_eq_ok_iff (style : PlaceholderStyle) (model : String) {info : Metadata}
    {data : Fields Json} (plain : tableEntry ∉ data.keys) (other : info.primaryKey ≠ tableEntry)
    (id : Scalar) (q : Query) :
    Statement.update style model info data id = .ok q ↔
      isIdentifier info.primaryKey = true ∧ ∃ written, written ≠ [] ∧
        Columns (data.others info.primaryKey) written ∧
        q = ⟨updating style info.tableName (written.map Prod.fst) info.primaryKey,
          written.map Prod.snd ++ [id]⟩ := by
  by_cases key : isIdentifier info.primaryKey = true
  · rw [Statement.update, checkColumn, if_pos key, ok_bind, bind_eq_ok_iff]
    simp only [key, true_and]
    refine exists_congr fun written => ?_
    rw [columns_eq_ok_iff]
    cases written with
    | nil =>
      refine iff_of_false (fun h => ?_) (by simp)
      cases h.2
    | cons c rest =>
      have nonempty : c :: rest ≠ [] := by simp
      rw [and_iff_right nonempty]
      refine and_congr_right fun columns => ?_
      have sent := update_bind_eq style columns nonempty plain key other id
      show liftBinding (Binding.bind style _ _) = .ok q ↔ _
      rw [liftBinding_eq_ok_iff, sent, Except.ok.injEq, eq_comm]
  · rw [Statement.update, checkColumn, if_neg key, error_bind]
    simp [key]

theorem delete_eq_ok_iff (style : PlaceholderStyle) (model : String) {info : Metadata}
    (other : info.primaryKey ≠ tableEntry) (id : Scalar) (q : Query) :
    Statement.delete style model info id = .ok q ↔
      isIdentifier info.primaryKey = true ∧
        q = ⟨deletion style info.tableName info.primaryKey, [id]⟩ := by
  have text : Lookup.deletion.text style info info.tableName =
      deletion style info.tableName info.primaryKey := String.append_empty
  rw [← text, ← Lookup.spliced_of_ne other info id]
  exact Lookup.statement_eq_ok_iff .deletion style model info id q

end SqlMapper.Statement

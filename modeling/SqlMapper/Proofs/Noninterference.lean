import SqlMapper.Proofs.Filled

/-!
Two bindings of one template. The text of a statement depends on its data in two
ways only: on how many values an entry has, and on the text of the entries that
are spliced. Data that agree on both are bound to the same text with as many
parameters, or fail with the same error, whatever the values are.
-/

namespace SqlMapper

def Bindable.spliced (value : Bindable) : String :=
  String.intercalate ", " (value.values.map Scalar.literal)

structure Expression.Alike (e : Expression) (v w : Bindable) : Prop where
  count : v.values.length = w.values.length
  text : e.flag = .splice → v.spliced = w.spliced

theorem markers_congr {vs ws : List Scalar} (h : vs.length = ws.length) :
    markers vs = markers ws := by
  rw [markers, markers, List.map_const', List.map_const', h]

theorem comparison_text_congr {vs ws : List Scalar} (h : vs.length = ws.length)
    (field operator : String) :
    (comparison field vs operator).text = (comparison field ws operator).text := by
  simp only [comparison, List.map_const', h]

theorem likeness_text_congr {vs ws : List Scalar} (h : vs.length = ws.length)
    (field before behind : String) :
    (likeness field vs before behind).text = (likeness field ws before behind).text := by
  have patterns : (vs.map fun v => Scalar.text (before ++ v.literal ++ behind)).length =
      (ws.map fun v => Scalar.text (before ++ v.literal ++ behind)).length := by
    rw [List.length_map, List.length_map, h]
  exact comparison_text_congr patterns field "like"

theorem likeness_length_congr {vs ws : List Scalar} (h : vs.length = ws.length)
    (field before behind : String) :
    (likeness field vs before behind).values.length =
      (likeness field ws before behind).values.length := by
  simp only [likeness, comparison, List.length_map, h]

theorem membership_congr {v w : Bindable} (h : v.values.length = w.values.length)
    (field one several : String) :
    (membership field v one several).text = (membership field w one several).text ∧
      (membership field v one several).values.length =
        (membership field w one several).values.length := by
  rw [membership_eq, membership_eq, h, markers_congr h]
  split
  · exact ⟨rfl, h⟩
  · exact ⟨rfl, rfl⟩

namespace Expression.Alike

variable {e : Expression} {v w : Bindable}

/-- The values of an entry reach the text of its fragment only where they are spliced. -/
theorem fragment (h : e.Alike v w) :
    (e.flag.fragment e.identifier v).text = (e.flag.fragment e.identifier w).text ∧
      (e.values v).length = (e.values w).length := by
  obtain ⟨flag, identifier⟩ := e
  cases flag with
  | list =>
    simp only [values, Flag.fragment, direct_eq]
    exact ⟨markers_congr h.count, h.count⟩
  | splice => exact ⟨h.text rfl, rfl⟩
  | equal => exact membership_congr h.count _ _ _
  | unequal => exact membership_congr h.count _ _ _
  | above => exact ⟨comparison_text_congr h.count _ _, h.count⟩
  | atLeast => exact ⟨comparison_text_congr h.count _ _, h.count⟩
  | below => exact ⟨comparison_text_congr h.count _ _, h.count⟩
  | atMost => exact ⟨comparison_text_congr h.count _ _, h.count⟩
  | endingIn => exact ⟨likeness_text_congr h.count _ _ _, likeness_length_congr h.count _ _ _⟩
  | containing => exact ⟨likeness_text_congr h.count _ _ _, likeness_length_congr h.count _ _ _⟩
  | startingWith => exact ⟨likeness_text_congr h.count _ _ _, likeness_length_congr h.count _ _ _⟩

theorem render_eq (h : e.Alike v w) (style : PlaceholderStyle) (bound : Nat) :
    e.render style bound v = e.render style bound w := by
  simp only [render, h.fragment.1]

end Expression.Alike

namespace Template

def references (t : Template) : List Expression := t.expressions.filterMap Expression.read?

/-- Data with the same referenced entries, each with as many values, and with the
same text where it is spliced. -/
structure Alike (t : Template) (d d' : Mapping) : Prop where
  counts : ∀ e ∈ t.references, (d.get? e.identifier).map (·.values.length) =
    (d'.get? e.identifier).map (·.values.length)
  texts : ∀ e ∈ t.references, e.flag = .splice →
    (d.get? e.identifier).map Bindable.spliced = (d'.get? e.identifier).map Bindable.spliced

instance (t : Template) (d d' : Mapping) : Decidable (t.Alike d d') :=
  decidable_of_iff
    ((∀ e ∈ t.references, (d.get? e.identifier).map (·.values.length) =
        (d'.get? e.identifier).map (·.values.length)) ∧
      ∀ e ∈ t.references, e.flag = .splice →
        (d.get? e.identifier).map Bindable.spliced = (d'.get? e.identifier).map Bindable.spliced)
    ⟨fun h => ⟨h.1, h.2⟩, fun h => ⟨h.counts, h.texts⟩⟩

theorem references_piece (text raw : List Char) (rest : Template) :
    (piece text raw rest).references = (Expression.read? raw).toList ++ rest.references := by
  rw [references, expressions, List.filterMap_cons]
  cases Expression.read? raw <;> rfl

def Related (R : Expression → Bindable → Bindable → Prop) (t : Template) (d d' : Mapping) : Prop :=
  ∀ e ∈ t.references, Option.Rel (R e) (d.get? e.identifier) (d'.get? e.identifier)

theorem Alike.related {t : Template} {d d' : Mapping} (h : t.Alike d d') :
    t.Related Expression.Alike d d' := by
  intro e he
  have count := h.counts e he
  have text := h.texts e he
  cases hv : d.get? e.identifier with
  | none =>
    rw [hv] at count
    rw [Option.map_eq_none_iff.1 count.symm]
    exact .none
  | some v =>
    rw [hv] at count text
    obtain ⟨w, hw, same⟩ := Option.map_eq_some_iff.1 count.symm
    rw [hw] at text ⊢
    exact .some ⟨same.symm, fun splices => Option.some.inj (text splices)⟩

theorem Related.rest {R : Expression → Bindable → Bindable → Prop} {text raw : List Char}
    {rest : Template} {d d' : Mapping} (h : (piece text raw rest).Related R d d') :
    rest.Related R d d' := by
  intro e he
  apply h
  rw [references_piece]
  exact List.mem_append_right _ he

theorem Related.resolve {R : Expression → Bindable → Bindable → Prop} {text raw : List Char}
    {rest : Template} {d d' : Mapping} (h : (piece text raw rest).Related R d d') :
    (∃ e, resolve d raw = .error e ∧ resolve d' raw = .error e) ∨
      ∃ e v w, resolve d raw = .ok (e, v) ∧ resolve d' raw = .ok (e, w) ∧ R e v w := by
  cases hr : Expression.read? raw with
  | none =>
    refine .inl ⟨.unknownFlag (String.ofList raw), ?_, ?_⟩ <;> simp only [SqlMapper.resolve, hr]
  | some e =>
    have here : e ∈ (piece text raw rest).references := by
      rw [references_piece, hr]
      exact List.mem_append_left _ (by simp)
    have entries := h e here
    simp only [SqlMapper.resolve, hr]
    generalize d.get? e.identifier = entry, d'.get? e.identifier = entry' at entries
    cases entries with
    | none => exact .inl ⟨.missing e.identifier, rfl, rfl⟩
    | some related => exact .inr ⟨e, _, _, rfl, rfl, related⟩

end Template

def Query.shape (q : Query) : String × Nat := (q.sql, q.params.length)

theorem Query.shape_append (a b : Query) :
    (a ++ b).shape = (a.shape.1 ++ b.shape.1, a.shape.2 + b.shape.2) := by
  simp [shape]

theorem Query.map_shape_append {x y : Except BindingError Query} {a b : Query}
    (front : a.shape = b.shape) (h : x.map Query.shape = y.map Query.shape) :
    (x.map (a ++ ·)).map Query.shape = (y.map (b ++ ·)).map Query.shape := by
  have split (c : Query) (z : Except BindingError Query) : (z.map (c ++ ·)).map Query.shape =
      (z.map Query.shape).map fun p => (c.shape.1 ++ p.1, c.shape.2 + p.2) := by
    rw [map_map, map_map]
    simp only [shape_append]
  rw [split, split, front, h]

theorem Template.bind_shape_eq {t : Template} {d d' : Mapping}
    (h : t.Related Expression.Alike d d')
    (style : PlaceholderStyle) (whole : String) (bound consumed : Nat) :
    (t.bind style d whole bound consumed).map Query.shape =
      (t.bind style d' whole bound consumed).map Query.shape := by
  induction t generalizing bound consumed with
  | plain text => rfl
  | unclosed text rest => rfl
  | piece text raw rest ih =>
    obtain ⟨e, hd, hd'⟩ | ⟨e, v, w, hd, hd', alike⟩ := h.resolve
    · rw [bind_piece_of_error hd, bind_piece_of_error hd']
    · have count := alike.fragment.2
      have front : (Query.mk (String.ofList text ++ e.render style bound v) (e.values v)).shape =
          (Query.mk (String.ofList text ++ e.render style bound w) (e.values w)).shape := by
        rw [Query.shape, Query.shape, alike.render_eq, count]
      rw [bind_piece_of_ok hd, bind_piece_of_ok hd', count]
      exact Query.map_shape_append front (ih h.rest _ _)

namespace Binding

/-- Bound values do not reach the text: on data that are alike for the template,
binding fails with one error, or gives one text and as many parameters. -/
theorem bindFrom_same_text {template : String} {d d' : Mapping}
    (h : (Template.parse template).Alike d d') (style : PlaceholderStyle) (bound : Nat) :
    (∃ e, bindFrom style bound template d = .error e ∧
        bindFrom style bound template d' = .error e) ∨
      ∃ q q', bindFrom style bound template d = .ok q ∧ bindFrom style bound template d' = .ok q' ∧
        q.sql = q'.sql ∧ q.params.length = q'.params.length := by
  have shapes := Template.bind_shape_eq h.related style template bound 0
  simp only [bindFrom]
  cases hd : (Template.parse template).bind style d template bound 0 with
  | error e =>
    rw [hd] at shapes
    exact .inl ⟨e, rfl, map_eq_error_iff.1 shapes.symm⟩
  | ok q =>
    cases hd' : (Template.parse template).bind style d' template bound 0 with
    | error e =>
      rw [hd, hd'] at shapes
      cases shapes
    | ok q' =>
      rw [hd, hd'] at shapes
      have same := Prod.mk.inj (Except.ok.inj shapes)
      exact .inr ⟨q, q', rfl, rfl, same.1, same.2⟩

def harmless : Mapping :=
  (((Fields.empty.insert "age" (.one (.int 18))).insert "id" (.many [.int 1, .int 2])).insert
    "name" (.many [.text "Ann", .text "Bo"])).insert "order" (.many [.text "age", .text "name, id"])

/-- Entries of the same lengths that read like statements, and an order of the same
text that is put together otherwise. -/
def hostile : Mapping :=
  (((Fields.empty.insert "age" (.many [.text "0 or ? = ?"])).insert "id"
    (.many [.null, .text "1); drop table users; --"])).insert "name"
      (.many [.text "' or \x7b=id\x7d", .bool true])).insert "order"
        (.many [.text "age, name", .text "id"])

def userSearch : String :=
  "\x7b=id\x7d and (\x7b%name%\x7d or \x7b<age\x7d) order by \x7b*order\x7d"

def searchText : String :=
  "id in ($4, $5) and ((name like $6 or name like $7) or age < $8) order by age, name, id"

theorem bindFrom_userSearch_same_text :
    (Template.parse userSearch).Alike harmless hostile ∧
      (bindFrom .dollar 3 userSearch hostile).map Query.shape = .ok (searchText, 5) ∧
      ((∃ e, bindFrom .dollar 3 userSearch harmless = .error e ∧
          bindFrom .dollar 3 userSearch hostile = .error e) ∨
        ∃ q q', bindFrom .dollar 3 userSearch harmless = .ok q ∧
          bindFrom .dollar 3 userSearch hostile = .ok q' ∧
          q.sql = q'.sql ∧ q.params.length = q'.params.length) := by
  have alike : (Template.parse userSearch).Alike harmless hostile := by decide +kernel
  have text : (bindFrom .dollar 3 userSearch hostile).map Query.shape = .ok (searchText, 5) := by
    decide +kernel
  exact ⟨alike, text, bindFrom_same_text alike .dollar 3⟩

end Binding

end SqlMapper

import SqlMapper.Proofs.Concatenation

/-!
The first defect of a template. An expression is defective if it is outside the
grammar of the flags or names an entry that is not there, and the first defective
expression from the left is reported. Only when there is none is the brace
reported that is never closed, by the number of bytes before it in the whole
template. Neither the style nor the count of the parameters nor a value has a
part in it.
-/

namespace SqlMapper

/-- What is wrong with an expression: no flag of the table is written there about a
word, or the data has no entry of that word. -/
inductive Expression.Defect (data : Mapping) (raw : List Char) : BindingError → Prop
  | unknownFlag
      (unwritten : ∀ e : Expression, isIdentifier e.identifier = true → raw ≠ e.chars) :
      Defect data raw (.unknownFlag (String.ofList raw))
  | missing (e : Expression) (word : isIdentifier e.identifier = true) (written : raw = e.chars)
      (absent : data.get? e.identifier = none) : Defect data raw (.missing e.identifier)

theorem resolve_eq_error_iff (data : Mapping) (raw : List Char) (err : BindingError) :
    resolve data raw = .error err ↔ Expression.Defect data raw err := by
  constructor
  · intro h
    rw [resolve] at h
    cases hr : Expression.read? raw with
    | none =>
      simp only [hr, Except.error.injEq] at h
      subst h
      refine .unknownFlag fun e word written => ?_
      rw [(Expression.read?_eq_some_iff raw e).2 ⟨word, written⟩] at hr
      simp at hr
    | some e =>
      obtain ⟨word, written⟩ := (Expression.read?_eq_some_iff raw e).1 hr
      cases hv : data.get? e.identifier with
      | none =>
        simp only [hr, hv, Except.error.injEq] at h
        subst h
        exact .missing e word written hv
      | some v => simp [hr, hv] at h
  · intro h
    cases h with
    | unknownFlag unwritten =>
      cases hr : Expression.read? raw with
      | none => simp [resolve, hr]
      | some e =>
        obtain ⟨word, written⟩ := (Expression.read?_eq_some_iff raw e).1 hr
        exact absurd written (unwritten e word)
    | missing e word written absent =>
      simp [resolve, (Expression.read?_eq_some_iff raw e).2 ⟨word, written⟩, absent]

theorem Expression.defect_congr {data data' : Mapping}
    (same : ∀ identifier, data.contains identifier = data'.contains identifier) (raw : List Char)
    (err : BindingError) : Defect data raw err ↔ Defect data' raw err := by
  have absent : ∀ identifier, data.get? identifier = none ↔ data'.get? identifier = none := by
    intro identifier
    have h := same identifier
    rw [Fields.contains, Fields.contains] at h
    rw [← Option.not_isSome_iff_eq_none, ← Option.not_isSome_iff_eq_none, h]
  constructor
  · rintro (h | ⟨e, word, written, h⟩)
    · exact .unknownFlag h
    · exact .missing e word written ((absent _).1 h)
  · rintro (h | ⟨e, word, written, h⟩)
    · exact .unknownFlag h
    · exact .missing e word written ((absent _).2 h)

namespace Template

def beforeUnclosed : Template → Option (List Char)
  | plain _ => none
  | unclosed text _ => some text
  | piece text expression rest =>
    rest.beforeUnclosed.map fun front => text ++ '\x7b' :: expression ++ '\x7d' :: front

theorem bind_eq_error_iff (style : PlaceholderStyle) (data : Mapping) (whole : String)
    (bound consumed : Nat) (t : Template) (err : BindingError) :
    t.bind style data whole bound consumed = .error err ↔
      FirstFault (Expression.Defect data) t.expressions err ∨
        (∀ raw ∈ t.expressions, ∀ e, ¬ Expression.Defect data raw e) ∧
          ∃ front, t.beforeUnclosed = some front ∧
            err = .unclosed (consumed + Text.byteLength front) whole := by
  induction t generalizing bound consumed with
  | plain text => simp [bind, expressions, beforeUnclosed, not_firstFault_nil]
  | unclosed text after =>
    simp [bind, expressions, beforeUnclosed, not_firstFault_nil, eq_comm]
  | piece text raw rest ih =>
    rw [expressions, firstFault_cons, List.forall_mem_cons]
    cases hr : resolve data raw with
    | error e =>
      have defect : ∀ e', Expression.Defect data raw e' ↔ e' = e := fun e' => by
        rw [← resolve_eq_error_iff, hr, Except.error.injEq, eq_comm]
      rw [bind_piece_of_error hr]
      simp [defect, eq_comm]
    | ok r =>
      have sound : ∀ e', ¬ Expression.Defect data raw e' := fun e' => by
        rw [← resolve_eq_error_iff, hr]
        simp
      have place : ∀ front : List Char,
          consumed + Text.byteLength (text ++ '\x7b' :: raw ++ '\x7d' :: front) =
            consumed + Text.byteLength text + Text.byteLength raw + 2 + Text.byteLength front := by
        intro front
        rw [byteLength_piece]
        omega
      rw [bind_piece_of_ok hr, map_eq_error_iff, ih, beforeUnclosed]
      simp only [sound, not_false_eq_true, implies_true, true_and, false_or,
        Option.map_eq_some_iff, exists_exists_and_eq_and, place]

theorem beforeUnclosed_followedBy {t : Template} (closed : t.beforeUnclosed = none)
    {after : List Char} (unclosed : '\x7d' ∉ after) :
    (t.followedBy ('\x7b' :: after)).beforeUnclosed = some t.chars := by
  induction t with
  | plain text =>
    have brace : ofChars ('\x7b' :: after) = .unclosed [] after :=
      ofChars_unclosed List.not_mem_nil unclosed
    rw [followedBy, brace, ledBy, beforeUnclosed, List.append_nil, chars]
  | unclosed text inner => simp [beforeUnclosed] at closed
  | piece text raw rest ih =>
    have inner : rest.beforeUnclosed = none := by simpa [beforeUnclosed] using closed
    rw [followedBy, beforeUnclosed, ih inner]
    rfl

/-- An unclosed brace stands behind a text whose braces all close, and nothing
behind it closes it. -/
theorem beforeUnclosed_eq_some_iff {t : Template} (h : t.Proper) (front : List Char) :
    t.beforeUnclosed = some front ↔
      ∃ after, t.chars = front ++ '\x7b' :: after ∧ '\x7d' ∉ after ∧
        (ofChars front).beforeUnclosed = none := by
  constructor
  · intro opened
    induction t generalizing front with
    | plain text => simp [beforeUnclosed] at opened
    | unclosed text after =>
      obtain rfl : text = front := by simpa [beforeUnclosed] using opened
      exact ⟨after, rfl, h.2, by rw [ofChars_of_not_mem h.1, beforeUnclosed]⟩
    | piece text raw rest ih =>
      obtain ⟨inner, hinner, rfl⟩ := Option.map_eq_some_iff.1 opened
      obtain ⟨after, written, unclosed, closed⟩ := ih h.2.2 inner hinner
      refine ⟨after, by simp [chars, written], unclosed, ?_⟩
      rw [List.append_assoc, List.cons_append, ofChars_piece h.1 h.2.1, beforeUnclosed, closed]
      rfl
  · rintro ⟨after, written, unclosed, closed⟩
    have whole := (proper_ofChars front).ofChars_append ('\x7b' :: after)
    rw [chars_ofChars, ← written, ofChars_chars h] at whole
    rw [whole, beforeUnclosed_followedBy closed unclosed, chars_ofChars]

theorem proper_source_iff (template : String) (t : Template) :
    t.Proper ∧ t.source = template ↔ t = parse template := by
  constructor
  · rintro ⟨proper, rfl⟩
    rw [parse, source, String.toList_ofList, ofChars_chars proper]
  · rintro rfl
    exact ⟨proper_ofChars _, by rw [source, parse, chars_ofChars, String.ofList_toList]⟩

end Template

namespace Binding

def UnclosedAfter (template front : String) : Prop :=
  ∃ after, template = front ++ "\x7b" ++ after ∧ '\x7d' ∉ after.toList ∧
    (Template.parse front).beforeUnclosed = none

theorem unclosedAfter_iff (template front : String) :
    UnclosedAfter template front ↔
      (Template.parse template).beforeUnclosed = some front.toList := by
  have proper := Template.proper_ofChars template.toList
  rw [Template.parse, Template.beforeUnclosed_eq_some_iff proper, Template.chars_ofChars]
  constructor
  · rintro ⟨after, rfl, unclosed, closed⟩
    exact ⟨after.toList, by simp, unclosed, closed⟩
  · rintro ⟨after, written, unclosed, closed⟩
    refine ⟨String.ofList after, ?_, by simpa using unclosed, closed⟩
    apply String.toList_inj.1
    simp [written]

/-- The first defect of a template from the left: the expressions are looked at in
their order, and an unclosed brace comes after all of them. -/
inductive FirstDefect (template : String) (data : Mapping) : BindingError → Prop
  | expression {err : BindingError}
      (first : FirstFault (Expression.Defect data) (Template.parse template).expressions err) :
      FirstDefect template data err
  | unclosed (front : String)
      (sound : ∀ raw ∈ (Template.parse template).expressions, ∀ e, ¬ Expression.Defect data raw e)
      (opened : UnclosedAfter template front) :
      FirstDefect template data (.unclosed front.utf8ByteSize template)

theorem bindFrom_eq_error_iff (style : PlaceholderStyle) (bound : Nat) (template : String)
    (data : Mapping) (err : BindingError) :
    bindFrom style bound template data = .error err ↔ FirstDefect template data err := by
  rw [bindFrom, Template.bind_eq_error_iff]
  constructor
  · rintro (first | ⟨sound, front, opened, rfl⟩)
    · exact .expression first
    · have behind := (unclosedAfter_iff template (String.ofList front)).2
        (by rw [opened, String.toList_ofList])
      have size : (String.ofList front).utf8ByteSize = 0 + Text.byteLength front := by
        rw [← Text.byteLength_toList, String.toList_ofList, Nat.zero_add]
      rw [← size]
      exact .unclosed _ sound behind
  · rintro (first | ⟨front, sound, opened⟩)
    · exact .inl first
    · refine .inr ⟨sound, front.toList, (unclosedAfter_iff template front).1 opened, ?_⟩
      rw [Text.byteLength_toList, Nat.zero_add]

theorem firstDefect_congr {data data' : Mapping}
    (same : ∀ identifier, data.contains identifier = data'.contains identifier) (template : String)
    (err : BindingError) : FirstDefect template data err ↔ FirstDefect template data' err := by
  have defects : Expression.Defect data = Expression.Defect data' := by
    ext raw e
    exact Expression.defect_congr same raw e
  constructor
  · rintro (first | ⟨front, sound, opened⟩)
    · exact .expression (defects ▸ first)
    · exact .unclosed front (defects ▸ sound) opened
  · rintro (first | ⟨front, sound, opened⟩)
    · exact .expression (defects ▸ first)
    · exact .unclosed front (defects ▸ sound) opened

theorem exists_firstDefect_iff (template : String) (data : Mapping) :
    (∃ err, FirstDefect template data err) ↔
      (∃ raw ∈ (Template.parse template).expressions, ∃ e, Expression.Defect data raw e) ∨
        ∃ front, UnclosedAfter template front := by
  constructor
  · rintro ⟨err, first | ⟨front, sound, opened⟩⟩
    · exact .inl ((exists_firstFault_iff _ _).1 ⟨err, first⟩)
    · exact .inr ⟨front, opened⟩
  · intro h
    by_cases defective :
        ∃ raw ∈ (Template.parse template).expressions, ∃ e, Expression.Defect data raw e
    · obtain ⟨err, first⟩ := (exists_firstFault_iff _ _).2 defective
      exact ⟨err, .expression first⟩
    · obtain ⟨front, opened⟩ := h.resolve_left defective
      exact ⟨_, .unclosed front (by simpa using defective) opened⟩

/-- Binding reports the first defect. A template text is split in one way, into the
expressions that close and perhaps a brace that does not. Binding fails if and only
if there is a defect, and its error is that of the first one, the same in every
style, after any number of parameters, and whatever the entries hold. -/
theorem bindFrom_error_firstDefect (style : PlaceholderStyle) (bound : Nat) (template : String)
    (data : Mapping) :
    (∀ t : Template, t.Proper ∧ t.source = template ↔ t = Template.parse template) ∧
    ((∃ err, bindFrom style bound template data = .error err) ↔
      (∃ raw ∈ (Template.parse template).expressions, ∃ e, Expression.Defect data raw e) ∨
        ∃ front, UnclosedAfter template front) ∧
    (∀ err, bindFrom style bound template data = .error err ↔ FirstDefect template data err) ∧
    ∀ style' bound' data',
      (∀ identifier, data.contains identifier = data'.contains identifier) →
        ∀ err, bindFrom style bound template data = .error err ↔
          bindFrom style' bound' template data' = .error err := by
  refine ⟨Template.proper_source_iff template, ?_, bindFrom_eq_error_iff style bound template data,
    ?_⟩
  · simp only [bindFrom_eq_error_iff, exists_firstDefect_iff]
  · intro style' bound' data' same err
    rw [bindFrom_eq_error_iff, bindFrom_eq_error_iff, firstDefect_congr same]

def lone (value : Bindable) : Mapping := Fields.empty.insert "id" value

theorem contains_lone (value : Bindable) (identifier : String) :
    (lone value).contains identifier = decide (identifier = "id") := by
  rw [lone, Fields.contains_insert]
  exact Bool.or_false _

theorem bindFrom_lone_firstDefect :
    (∀ identifier, (lone (.one (.int 7))).contains identifier =
        (lone (.many [])).contains identifier) ∧
      bindFrom .dollar 4 "é \x7b=id\x7d, \x7bid" (lone (.one (.int 7))) =
        .error (.unclosed 10 "é \x7b=id\x7d, \x7bid") ∧
      bindFrom .question 0 "é \x7b=id\x7d, \x7bid" (lone (.many [])) =
        .error (.unclosed 10 "é \x7b=id\x7d, \x7bid") ∧
      FirstDefect "\x7bid\x7d \x7b>gone\x7d \x7b~id\x7d \x7b" (lone (.many [])) (.missing "gone") := by
  have same : ∀ identifier, (lone (.one (.int 7))).contains identifier =
      (lone (.many [])).contains identifier := by simp [contains_lone]
  have unclosed : bindFrom .dollar 4 "é \x7b=id\x7d, \x7bid" (lone (.one (.int 7))) =
      .error (.unclosed 10 "é \x7b=id\x7d, \x7bid") := by decide +kernel
  refine ⟨same, unclosed, ?_, ?_⟩
  · exact ((bindFrom_error_firstDefect .dollar 4 _ _).2.2.2 .question 0 _ same _).1 unclosed
  · exact ((bindFrom_error_firstDefect .question 0 _ _).2.2.1 _).1 (by decide +kernel)

end Binding

end SqlMapper

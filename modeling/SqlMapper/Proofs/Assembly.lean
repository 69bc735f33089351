import SqlMapper.Proofs.Filled

/-!
Statements assembled step by step, from pieces of text and bound templates. The
two placeholder styles make the same statement with the same parameters, apart
from the spelling of the markers, over runs of any length: if no question mark
stands anywhere but in a marker, the `k`-th one of the plain statement is the
`k`-th number of the other, and there is one for each parameter.
-/

namespace SqlMapper

namespace Template

def texts : Template → List (List Char)
  | plain text => [text]
  | unclosed text _ => [text]
  | piece text _ rest => text :: rest.texts

def literals (data : Mapping) (t : Template) : List String :=
  t.expressions.flatMap fun raw =>
    match Expression.read? raw with
    | some ⟨.splice, identifier⟩ =>
      (data.get? identifier).elim [] fun value => value.values.map Scalar.literal
    | _ => []

end Template

namespace Assembly

/-- One step: text as it is, or a template bound after all parameters so far. -/
inductive Step where
  | push (text : String)
  | bind (template : String) (data : Mapping)

namespace Step

def apply (style : PlaceholderStyle) (q : Query) : Step → Except BindingError Query
  | push text => .ok (q.pushSql text)
  | bind template data => do
    let piece ← Binding.bindFrom style q.params.length template data
    return q ++ piece

def Unmarked : Step → Prop
  | push text => '?' ∉ text.toList
  | bind template data =>
    (∀ text ∈ (Template.parse template).texts, '?' ∉ text) ∧
      ∀ literal ∈ (Template.parse template).literals data, '?' ∉ literal.toList

instance : DecidablePred Unmarked
  | push text => inferInstanceAs (Decidable ('?' ∉ text.toList))
  | bind template data => inferInstanceAs (Decidable
      ((∀ text ∈ (Template.parse template).texts, '?' ∉ text) ∧
        ∀ literal ∈ (Template.parse template).literals data, '?' ∉ literal.toList))

def Fillable : Step → Prop
  | push _ => True
  | bind template data => ∃ f : Filled, f.Fills template data

end Step

def run (style : PlaceholderStyle) (steps : List Step) : Except BindingError Query :=
  steps.foldlM (Step.apply style) .empty

end Assembly

namespace Filled

structure Unmarked (f : Filled) : Prop where
  texts : ∀ s ∈ f.slots, '?' ∉ s.before
  splices : ∀ s ∈ f.slots, s.expression.flag.binds = false → '?' ∉ s.fragment.text.toList
  tail : '?' ∉ f.tail

theorem texts_template (f : Filled) : f.template.texts = f.slots.map Slot.before ++ [f.tail] := by
  obtain ⟨slots, tail⟩ := f
  induction slots with
  | nil => rfl
  | cons s slots ih =>
    rw [template_cons, Template.texts, ih]
    rfl

theorem expressions_template (f : Filled) :
    f.template.expressions = f.slots.map fun s => s.expression.chars := by
  obtain ⟨slots, tail⟩ := f
  induction slots with
  | nil => rfl
  | cons s slots ih =>
    rw [template_cons, Template.expressions, ih]
    rfl

theorem unmarked_of_step {source : String} {data : Mapping} {f : Filled} (h : f.Fills source data)
    (hm : (Assembly.Step.bind source data).Unmarked) : f.Unmarked := by
  have htexts := hm.1
  have hliterals := hm.2
  rw [h.parse_eq, texts_template] at htexts
  rw [h.parse_eq, Template.literals, expressions_template] at hliterals
  refine ⟨fun s hs => htexts _ (by simp [hs, List.mem_map_of_mem]), ?_, htexts _ (by simp)⟩
  intro s hs hb
  have hsplice : s.expression.flag = .splice := (Flag.binds_eq_false_iff _).1 hb
  have hread : Expression.read? s.expression.chars = some ⟨.splice, s.expression.identifier⟩ := by
    rw [← hsplice]
    exact (Expression.read?_eq_some_iff _ _).2 ⟨h.identifiers s hs, rfl⟩
  rw [Slot.fragment, hsplice]
  show '?' ∉ (String.intercalate ", " (s.value.values.map Scalar.literal)).toList
  rw [String.toList_intercalate]
  refine notMem_intercalate (by decide) fun p hp => ?_
  simp only [List.map_map, List.mem_map, Function.comp] at hp
  obtain ⟨v, hv, rfl⟩ := hp
  refine hliterals v.literal (List.mem_flatMap.2 ⟨_, List.mem_map_of_mem hs, ?_⟩)
  simp only [hread, h.entries s hs]
  exact List.mem_map_of_mem hv

end Filled

/-- A marked statement `d` is the plain statement `q` with its markers numbered. -/
structure Numbered (bound : Nat) (d q : Query) : Prop where
  params : d.params = q.params
  count : q.sql.toList.count '?' = q.params.length
  sql : d.sql = PlaceholderStyle.dollar.render bound q.sql

namespace Numbered

theorem empty (bound : Nat) : Numbered bound .empty .empty := by
  refine ⟨rfl, rfl, ?_⟩
  rw [PlaceholderStyle.render_eq_self _ _ (by decide)]

theorem append {bound : Nat} {d q d' q' : Query} (h : Numbered bound d q)
    (h' : Numbered (bound + q.params.length) d' q') : Numbered bound (d ++ d') (q ++ q') := by
  refine ⟨?_, ?_, ?_⟩
  · rw [Query.append_params, Query.append_params, h.params, h'.params]
  · rw [Query.append_sql, Query.append_params, String.toList_append, List.count_append,
      List.length_append, h.count, h'.count]
  · rw [Query.append_sql, Query.append_sql, PlaceholderStyle.render_append, h.count, h.sql, h'.sql]

theorem text {text : String} (h : '?' ∉ text.toList) (bound : Nat) :
    Numbered bound ⟨text, []⟩ ⟨text, []⟩ := by
  refine ⟨rfl, List.count_eq_zero.2 h, ?_⟩
  rw [PlaceholderStyle.render_eq_self _ _ h]

theorem slot {s : Slot} (hi : isIdentifier s.expression.identifier = true)
    (hs : s.expression.flag.binds = false → '?' ∉ s.fragment.text.toList) (bound bound' : Nat) :
    Numbered bound ⟨s.expression.render .dollar bound s.value, s.values⟩
      ⟨s.expression.render .question bound' s.value, s.values⟩ := by
  by_cases hb : s.expression.flag.binds = true
  · refine ⟨rfl, ?_, ?_⟩
    · simp only [Expression.render, hb, if_true, PlaceholderStyle.render]
      exact Flag.count_fragment hb hi s.value
    · simp only [Expression.render, hb, if_true, PlaceholderStyle.render]
  · have hb : s.expression.flag.binds = false := by simpa using hb
    have plain := hs hb
    have none : s.values = [] := Flag.values_eq_nil_of_not_binds hb _ _
    simp only [Expression.render, hb, none]
    exact text plain bound

theorem query {slots : List Slot} {tail : List Char} (unmarked : Filled.Unmarked ⟨slots, tail⟩)
    (hi : ∀ s ∈ slots, isIdentifier s.expression.identifier = true) (bound bound' : Nat) :
    Numbered bound (Filled.query .dollar bound ⟨slots, tail⟩)
      (Filled.query .question bound' ⟨slots, tail⟩) := by
  induction slots generalizing bound bound' with
  | nil =>
    rw [Filled.query_nil, Filled.query_nil]
    exact text (by rw [String.toList_ofList]; exact unmarked.tail) bound
  | cons s slots ih =>
    have texts := List.forall_mem_cons.1 unmarked.texts
    have splices := List.forall_mem_cons.1 unmarked.splices
    have identifiers := List.forall_mem_cons.1 hi
    have lead : Numbered bound ⟨String.ofList s.before, []⟩ ⟨String.ofList s.before, []⟩ :=
      text (by rw [String.toList_ofList]; exact texts.1) bound
    have here := slot identifiers.1 splices.1 bound bound'
    have rest := ih ⟨texts.2, splices.2, unmarked.tail⟩ identifiers.2 (bound + s.values.length)
      (bound' + s.values.length)
    rw [Filled.query_cons, Filled.query_cons]
    exact (lead.append here).append rest

end Numbered

namespace Assembly

theorem apply_push (style : PlaceholderStyle) (q : Query) (text : String) :
    Step.apply style q (.push text) = .ok (q.pushSql text) := rfl

theorem apply_bind {style : PlaceholderStyle} {template : String} {data : Mapping} {f : Filled}
    (h : f.Fills template data) (q : Query) :
    Step.apply style q (.bind template data) = .ok (q ++ f.query style q.params.length) := by
  rw [Step.apply, (Binding.bindFrom_eq_ok_iff _ _ _ _ _).2 ⟨f, h, rfl⟩]
  rfl

theorem fillable_of_apply {style : PlaceholderStyle} {q q' : Query} {s : Step}
    (h : s.apply style q = .ok q') : s.Fillable := by
  cases s with
  | push text => trivial
  | bind template data =>
    obtain ⟨piece, hpiece, -⟩ := bind_eq_ok_iff.1 h
    obtain ⟨f, hf, -⟩ := (Binding.bindFrom_eq_ok_iff _ _ _ _ _).1 hpiece
    exact ⟨f, hf⟩

theorem fillable_of_run {style : PlaceholderStyle} {steps : List Step} {q q' : Query}
    (h : steps.foldlM (Step.apply style) q = .ok q') : ∀ s ∈ steps, s.Fillable := by
  induction steps generalizing q with
  | nil => simp
  | cons s steps ih =>
    rw [List.foldlM_cons] at h
    obtain ⟨next, hnext, h⟩ := bind_eq_ok_iff.1 h
    exact List.forall_mem_cons.2 ⟨fillable_of_apply hnext, ih h⟩

/-- One step keeps the two statements in agreement. -/
theorem numbered_apply {s : Step} (fillable : s.Fillable) (unmarked : s.Unmarked) {d q : Query}
    (h : Numbered 0 d q) :
    ∃ d' q', s.apply .dollar d = .ok d' ∧ s.apply .question q = .ok q' ∧ Numbered 0 d' q' := by
  cases s with
  | push text =>
    refine ⟨_, _, apply_push _ _ _, apply_push _ _ _, ?_⟩
    have piece := Numbered.text unmarked (0 + q.params.length)
    have all := h.append piece
    exact ⟨h.params, by simpa using all.count, all.sql⟩
  | bind template data =>
    obtain ⟨f, hf⟩ := fillable
    refine ⟨_, _, apply_bind hf d, apply_bind hf q, h.append ?_⟩
    have piece := Numbered.query (Filled.unmarked_of_step hf unmarked) hf.identifiers
      d.params.length q.params.length
    rw [h.params] at piece
    rw [h.params, Nat.zero_add]
    exact piece

theorem numbered_run {steps : List Step} (fillable : ∀ s ∈ steps, s.Fillable)
    (unmarked : ∀ s ∈ steps, s.Unmarked) {d q : Query} (h : Numbered 0 d q) :
    ∃ d' q', steps.foldlM (Step.apply .dollar) d = .ok d' ∧
      steps.foldlM (Step.apply .question) q = .ok q' ∧ Numbered 0 d' q' := by
  -- with as many parameters in both, the next template is bound from the same count
  induction steps generalizing d q with
  | nil => exact ⟨d, q, rfl, rfl, h⟩
  | cons s steps ih =>
    have hfillable := List.forall_mem_cons.1 fillable
    have hunmarked := List.forall_mem_cons.1 unmarked
    obtain ⟨d₁, q₁, hd, hq, h₁⟩ := numbered_apply hfillable.1 hunmarked.1 h
    obtain ⟨d', q', hd', hq', h'⟩ := ih hfillable.2 hunmarked.2 h₁
    refine ⟨d', q', ?_, ?_, h'⟩
    · rw [List.foldlM_cons, hd, ok_bind, hd']
    · rw [List.foldlM_cons, hq, ok_bind, hq']

/-- A run that succeeds does so in both styles, with the same parameters. Without
stray question marks the numbered statement is the plain one with its `k`-th
question mark written as the number `k`, and there is one for each parameter. -/
theorem run_dollar_eq_numbered {style : PlaceholderStyle} {steps : List Step} {p : Query}
    (h : run style steps = .ok p) (unmarked : ∀ s ∈ steps, s.Unmarked) :
    ∃ d q, run .dollar steps = .ok d ∧ run .question steps = .ok q ∧ q.params = d.params ∧
      q.sql.toList.count '?' = q.params.length ∧
      d.sql = String.ofList
        (replaceMarkers (fun k => (PlaceholderStyle.marker .dollar k).toList) q.sql.toList) := by
  obtain ⟨d, q, hd, hq, agree⟩ := numbered_run (fillable_of_run h) unmarked (Numbered.empty 0)
  refine ⟨d, q, hd, hq, agree.params.symm, agree.count, ?_⟩
  rw [agree.sql, PlaceholderStyle.render_eq_replaceMarkers]
  simp only [Nat.zero_add]

def people : Mapping :=
  (((Fields.empty.insert "age" (.many [.int 18, .int 30])).insert "id" (.many [])).insert "order"
    (.one (.text "name, age"))).insert "name" (.one (.text "To?"))

def search : List Step :=
  [.push "select * from people where ",
    .bind "\x7b!id\x7d and \x7b>=age\x7d" people,
    .push " or ",
    .bind "\x7b%name%\x7d order by \x7b*order\x7d" people]

def numberedSearch : Query where
  sql := "select * from people where id != $1 and (age >= $2 or age >= $3)" ++
    " or name like $4 order by name, age"
  params := [.null, .int 18, .int 30, .text "%To?%"]

theorem run_search_numbered :
    run .dollar search = .ok numberedSearch ∧ (∀ s ∈ search, s.Unmarked) ∧
      ∃ d q, run .dollar search = .ok d ∧ run .question search = .ok q ∧ q.params = d.params ∧
        q.sql.toList.count '?' = q.params.length ∧
        d.sql = String.ofList
          (replaceMarkers (fun k => (PlaceholderStyle.marker .dollar k).toList) q.sql.toList) := by
  have done : run .dollar search = .ok numberedSearch := by decide +kernel
  have unmarked : ∀ s ∈ search, s.Unmarked := by decide +kernel
  exact ⟨done, unmarked, run_dollar_eq_numbered done unmarked⟩

end Assembly

end SqlMapper

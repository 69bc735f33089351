import Mathlib.Algebra.Ring.Nat
import SqlMapper.Proofs.Assembly
import SqlMapper.Proofs.Noninterference

/-!
Markers and parameters counted against the template. Every question mark of a plain
statement stands for a parameter, or was in the text between the expressions, or
came with a spliced literal. There is a parameter for each scalar of an entry that
is not spliced, and one for an entry without scalars that is compared for equality.
-/

namespace SqlMapper

theorem count_intercalate_eq_sum {sep : List Char} (hsep : '?' ∉ sep) (parts : List (List Char)) :
    (sep.intercalate parts).count '?' = (parts.map (List.count '?')).sum := by
  induction parts with
  | nil => rfl
  | cons p rest ih =>
    cases rest with
    | nil => simp
    | cons q rest =>
      rw [List.intercalate_cons_cons, List.count_append, List.count_append, ih,
        List.count_eq_zero.2 hsep]
      simp only [List.map_cons, List.sum_cons, Nat.add_zero]

namespace Flag

/-- How many parameters so many scalars become where they are not spliced: as many,
but one null where none at all are compared for equality. -/
def demand : Flag → Nat → Nat
  | equal, 0 => 1
  | unequal, 0 => 1
  | _, n => n

theorem length_membership (field one several : String) (value : Bindable) :
    (membership field value one several).values.length =
      equal.demand value.values.length := by
  rw [membership_eq]
  match value.values with
  | [] => rfl
  | [v] => rfl
  | v :: w :: vs => rfl

theorem length_fragment {f : Flag} (hf : f ≠ splice) (identifier : String) (value : Bindable) :
    (f.fragment identifier value).values.length = f.demand value.values.length := by
  have pattern : ∀ before after, (likeness identifier value.values before after).values.length =
      value.values.length := by
    intro before after
    simp [likeness, comparison]
  cases f with
  | splice => exact absurd rfl hf
  | equal => exact length_membership ..
  | unequal =>
    have same : equal.demand value.values.length = unequal.demand value.values.length := by
      cases value.values.length <;> rfl
    exact (length_membership ..).trans same
  | endingIn => exact pattern ..
  | containing => exact pattern ..
  | startingWith => exact pattern ..
  | list =>
    rw [fragment, direct_eq]
    rfl
  | above => rfl
  | atLeast => rfl
  | below => rfl
  | atMost => rfl

theorem values_of_no_scalars {f : Flag} (hf : f = equal ∨ f = unequal) (identifier : String)
    {value : Bindable} (hv : value.values = []) :
    (f.fragment identifier value).values = [.null] := by
  obtain rfl | rfl := hf
  · rw [fragment, membership_eq, hv]
    rfl
  · rw [fragment, membership_eq, hv]
    rfl

end Flag

def Expression.demand (data : Mapping) (e : Expression) : Nat :=
  (data.get? e.identifier).elim 0 fun value => e.flag.demand value.values.length

def Slot.literals (s : Slot) : List String :=
  match s.expression.flag with
  | .splice => s.value.values.map Scalar.literal
  | _ => []

theorem Slot.literals_of_binds {s : Slot} (h : s.expression.flag.binds = true) :
    s.literals = [] := by
  obtain ⟨before, ⟨flag, identifier⟩, value⟩ := s
  cases flag <;> first | rfl | cases h

/-- A slot writes a question mark for each of its values, and those of its literals. -/
theorem Slot.count_render {s : Slot} (hi : isIdentifier s.expression.identifier = true)
    (bound : Nat) :
    (s.expression.render .question bound s.value).toList.count '?' =
      s.values.length + (s.literals.map fun l => l.toList.count '?').sum := by
  by_cases hb : s.expression.flag.binds = true
  · have marks := Flag.count_fragment hb hi s.value
    simp only [Expression.render, hb, if_true, PlaceholderStyle.render]
    rw [literals_of_binds hb, marks]
    rfl
  · have hb : s.expression.flag.binds = false := by simpa using hb
    have splices := (Flag.binds_eq_false_iff _).1 hb
    have none : s.values = [] := Flag.values_eq_nil_of_not_binds hb _ _
    have text : s.expression.render .question bound s.value =
        String.intercalate ", " (s.value.values.map Scalar.literal) := by
      simp only [Expression.render, splices, Flag.fragment, Flag.binds]
      rfl
    rw [text, none, literals, splices, String.toList_intercalate,
      count_intercalate_eq_sum (by decide), List.map_map, List.length_nil, Nat.zero_add]
    rfl

namespace Filled

theorem length_params_cons (s : Slot) (slots : List Slot) (tail : List Char) :
    (params ⟨s :: slots, tail⟩).length = s.values.length + (params ⟨slots, tail⟩).length := by
  rw [params, List.flatMap_cons, List.length_append]
  rfl

theorem count_query {slots : List Slot} {tail : List Char}
    (hi : ∀ s ∈ slots, isIdentifier s.expression.identifier = true) (bound : Nat) :
    (query .question bound ⟨slots, tail⟩).sql.toList.count '?' =
      (params ⟨slots, tail⟩).length +
        ((slots.map Slot.before ++ [tail]).map (List.count '?')).sum +
        ((slots.flatMap Slot.literals).map fun l => l.toList.count '?').sum := by
  induction slots generalizing bound with
  | nil => simp [query_nil, params]
  | cons s slots ih =>
    have identifiers := List.forall_mem_cons.1 hi
    have here := Slot.count_render identifiers.1 bound
    have rest := ih identifiers.2 (bound + s.values.length)
    rw [query_cons, Query.append_sql, String.toList_append, List.count_append, rest,
      String.toList_append, List.count_append, here, String.toList_ofList,
      length_params_cons]
    simp only [List.map_cons, List.cons_append, List.sum_cons, List.flatMap_cons, List.map_append,
      List.sum_append]
    omega

theorem references_template {data : Mapping} {f : Filled} (h : f.FoundIn data) :
    f.template.references = f.slots.map Slot.expression := by
  obtain ⟨slots, tail⟩ := f
  induction slots with
  | nil => rfl
  | cons s slots ih =>
    obtain ⟨⟨word, -⟩, rest⟩ := foundIn_cons.1 h
    rw [template_cons, Template.references_piece, ih rest,
      (Expression.read?_eq_some_iff _ s.expression).2 ⟨word, rfl⟩]
    rfl

theorem literals_template {data : Mapping} {f : Filled} (h : f.FoundIn data) :
    f.template.literals data = f.slots.flatMap Slot.literals := by
  obtain ⟨slots, tail⟩ := f
  induction slots with
  | nil => rfl
  | cons s slots ih =>
    obtain ⟨⟨word, entry⟩, rest⟩ := foundIn_cons.1 h
    have read := (Expression.read?_eq_some_iff _ s.expression).2 ⟨word, rfl⟩
    have later := ih rest
    rw [Template.literals] at later
    rw [template_cons, Template.literals, Template.expressions, List.flatMap_cons, later, read,
      List.flatMap_cons]
    obtain ⟨before, ⟨flag, identifier⟩, value⟩ := s
    cases flag <;> simp_all [Slot.literals]

theorem length_params {data : Mapping} {f : Filled} (h : f.FoundIn data) :
    f.params.length =
      (((f.slots.map Slot.expression).filter (·.flag ≠ .splice)).map (·.demand data)).sum := by
  obtain ⟨slots, tail⟩ := f
  induction slots with
  | nil => rfl
  | cons s slots ih =>
    obtain ⟨⟨-, entry⟩, rest⟩ := foundIn_cons.1 h
    have later := ih rest
    rw [length_params_cons, later, List.map_cons, List.filter_cons]
    by_cases splices : s.expression.flag = .splice
    · have none : s.values = [] :=
        Flag.values_eq_nil_of_not_binds ((Flag.binds_eq_false_iff _).2 splices) _ _
      simp [splices, none]
    · have bound : s.values.length = s.expression.demand data := by
        rw [Expression.demand, entry]
        exact Flag.length_fragment splices _ _
      simp [splices, bound]

end Filled

namespace Binding

/-- In a plain statement the question marks are those of the parameters, of the text
between the expressions and of the spliced literals. All expressions of the template
are references to entries, and each that is not spliced has a parameter for every
scalar of its entry, or one null for none where they are compared for equality. -/
theorem bindFrom_question_accounted {bound : Nat} {template : String} {data : Mapping} {q : Query}
    (h : bindFrom .question bound template data = .ok q) :
    q.sql.toList.count '?' = q.params.length +
        ((Template.parse template).texts.map (List.count '?')).sum +
        (((Template.parse template).literals data).map fun l => l.toList.count '?').sum ∧
      (Template.parse template).references.map Expression.chars =
        (Template.parse template).expressions ∧
      q.params.length =
        (((Template.parse template).references.filter (·.flag ≠ .splice)).map
          (·.demand data)).sum ∧
      ∀ e ∈ (Template.parse template).references, e.flag = .equal ∨ e.flag = .unequal →
        ∀ value, data.get? e.identifier = some value → value.values = [] →
          e.values value = [.null] ∧ .null ∈ q.params := by
  obtain ⟨f, hf, rfl⟩ := (bindFrom_eq_ok_iff _ _ _ _ _).1 h
  rw [hf.parse_eq, Filled.texts_template, Filled.literals_template hf.toFoundIn,
    Filled.references_template hf.toFoundIn, Filled.expressions_template]
  refine ⟨Filled.count_query hf.identifiers bound, ?_, Filled.length_params hf.toFoundIn, ?_⟩
  · rw [List.map_map]
    rfl
  · intro e he equality value entry empty
    obtain ⟨s, hs, rfl⟩ := List.mem_map.1 he
    obtain rfl : s.value = value := Option.some.inj ((hf.entries s hs).symm.trans entry)
    have null : s.values = [.null] := Flag.values_of_no_scalars equality _ empty
    exact ⟨null, List.mem_flatMap.2 ⟨s, hs, by simp [null]⟩⟩

def stray : Mapping :=
  ((Fields.empty.insert "age" (.many [.int 18, .int 30])).insert "id" (.many [])).insert "order"
    (.many [.text "tags ? 'new'", .text "name"])

def strayTemplate : String :=
  "tags ? 'old' and \x7b!id\x7d and \x7b<age\x7d order by \x7b*order\x7d"

def strayQuery : Query where
  sql := "tags ? 'old' and id != ? and (age < ? or age < ?) order by tags ? 'new', name"
  params := [.null, .int 18, .int 30]

theorem bindFrom_stray_accounted :
    bindFrom .question 0 strayTemplate stray = .ok strayQuery ∧
      strayQuery.sql.toList.count '?' = strayQuery.params.length +
        ((Template.parse strayTemplate).texts.map (List.count '?')).sum +
        (((Template.parse strayTemplate).literals stray).map fun l => l.toList.count '?').sum ∧
      (Template.parse strayTemplate).references.map Expression.chars =
        (Template.parse strayTemplate).expressions ∧
      strayQuery.params.length =
        (((Template.parse strayTemplate).references.filter (·.flag ≠ .splice)).map
          (·.demand stray)).sum ∧
      ∀ e ∈ (Template.parse strayTemplate).references, e.flag = .equal ∨ e.flag = .unequal →
        ∀ value, stray.get? e.identifier = some value → value.values = [] →
          e.values value = [.null] ∧ .null ∈ strayQuery.params := by
  have bound : bindFrom .question 0 strayTemplate stray = .ok strayQuery := by decide +kernel
  exact ⟨bound, bindFrom_question_accounted bound⟩

end Binding

end SqlMapper

import SqlMapper.Flag
import SqlMapper.Proofs.Numbering

/-!
Fragments hold exactly one question mark for each of their values, for every flag
that binds and every number of values (`Flag.count_fragment`); an identifier
brings none of its own. The one that is spliced holds the texts of its values.
-/

namespace SqlMapper

theorem question_notMem_of_isIdentifier {s : String} (h : isIdentifier s = true) :
    '?' ∉ s.toList := by
  intro hm
  have := ((isIdentifier_iff s).1 h).2 '?' hm
  exact absurd this (by decide)

theorem brace_notMem_of_isIdentifier {s : String} (h : isIdentifier s = true) :
    '\x7d' ∉ s.toList := by
  intro hm
  have := ((isIdentifier_iff s).1 h).2 '\x7d' hm
  exact absurd this (by decide)

theorem notMem_intercalate {c : Char} {sep : List Char} (hsep : c ∉ sep) {parts : List (List Char)}
    (h : ∀ p ∈ parts, c ∉ p) : c ∉ sep.intercalate parts := by
  induction parts with
  | nil => simp
  | cons p rest ih =>
    have hp : c ∉ p := h p (by simp)
    have hrest := ih fun q hq => h q (List.mem_cons_of_mem _ hq)
    cases rest with
    | nil => simpa using hp
    | cons q rest =>
      rw [List.intercalate_cons_cons]
      simp only [List.mem_append, not_or]
      exact ⟨⟨hp, hsep⟩, hrest⟩

theorem count_intercalate {sep : List Char} (hsep : '?' ∉ sep) {parts : List (List Char)}
    (h : ∀ p ∈ parts, p.count '?' = 1) : (sep.intercalate parts).count '?' = parts.length := by
  induction parts with
  | nil => rfl
  | cons p rest ih =>
    have hp : p.count '?' = 1 := h p (by simp)
    have hrest := ih fun q hq => h q (by simp [hq])
    cases rest with
    | nil => simp [hp]
    | cons q rest =>
      rw [List.intercalate_cons_cons, List.count_append, List.count_append, hp, hrest,
        List.count_eq_zero.2 hsep]
      simp
      omega

theorem count_markers (values : List Scalar) : (markers values).toList.count '?' = values.length := by
  rw [markers, String.toList_intercalate, count_intercalate (by decide)]
  · simp
  · intro p hp
    simp only [List.mem_map] at hp
    obtain ⟨_, ⟨v, _, rfl⟩, rfl⟩ := hp
    decide

theorem count_comparison {field : String} (hf : '?' ∉ field.toList) (values : List Scalar)
    {operator : String} (ho : '?' ∉ operator.toList) :
    (comparison field values operator).text.toList.count '?' = values.length := by
  have one : ∀ p ∈ ((values.map fun _ => field ++ " " ++ operator ++ " ?").map String.toList),
      p.count '?' = 1 := by
    intro p hp
    simp only [List.mem_map] at hp
    obtain ⟨_, ⟨v, _, rfl⟩, rfl⟩ := hp
    simp [List.count_eq_zero.2 hf, List.count_eq_zero.2 ho]
  have all : (" or ".intercalate (values.map fun _ => field ++ " " ++ operator ++ " ?")).toList.count
      '?' = values.length := by
    rw [String.toList_intercalate, count_intercalate (by decide) one]
    simp
  simp only [comparison]
  split
  · rw [String.toList_append, String.toList_append, List.count_append, List.count_append, all]
    simp
  · exact all

theorem count_membership {field : String} (hf : '?' ∉ field.toList) (value : Bindable)
    {one several : String} (ho : '?' ∉ one.toList) (hs : '?' ∉ several.toList) :
    (membership field value one several).text.toList.count '?' =
      (membership field value one several).values.length := by
  rw [membership_eq]
  split
  · have all := count_markers value.values
    simp [List.count_eq_zero.2 hf, List.count_eq_zero.2 hs, all]
  · simp [condition, List.count_eq_zero.2 hf, List.count_eq_zero.2 ho]

theorem count_likeness {field : String} (hf : '?' ∉ field.toList) (values : List Scalar)
    (before after : String) :
    (likeness field values before after).text.toList.count '?' =
      (likeness field values before after).values.length :=
  count_comparison hf _ (by decide)

namespace Flag

theorem count_fragment {f : Flag} (hb : f.binds = true) {identifier : String}
    (hi : isIdentifier identifier = true) (value : Bindable) :
    (f.fragment identifier value).text.toList.count '?' =
      (f.fragment identifier value).values.length := by
  have hf := question_notMem_of_isIdentifier hi
  cases f with
  | list =>
    rw [fragment, direct_eq]
    exact count_markers _
  | splice => exact absurd hb (by decide)
  | equal => exact count_membership hf _ (by decide) (by decide)
  | unequal => exact count_membership hf _ (by decide) (by decide)
  | above => exact count_comparison hf _ (by decide)
  | atLeast => exact count_comparison hf _ (by decide)
  | below => exact count_comparison hf _ (by decide)
  | atMost => exact count_comparison hf _ (by decide)
  | endingIn => exact count_likeness hf _ _ _
  | containing => exact count_likeness hf _ _ _
  | startingWith => exact count_likeness hf _ _ _

theorem binds_eq_false_iff (f : Flag) : f.binds = false ↔ f = splice := by
  cases f <;> simp [binds]

theorem values_eq_nil_of_not_binds {f : Flag} (hb : f.binds = false) (identifier : String)
    (value : Bindable) : (f.fragment identifier value).values = [] := by
  obtain rfl := (binds_eq_false_iff f).1 hb
  rfl

end Flag

theorem Expression.brace_notMem_chars {e : Expression} (h : isIdentifier e.identifier = true) :
    '\x7d' ∉ e.chars := by
  have hi := brace_notMem_of_isIdentifier h
  have ho : '\x7d' ∉ e.flag.opening := by cases e.flag <;> decide
  have hc : '\x7d' ∉ e.flag.closing := by cases e.flag <;> decide
  simp [chars, hi, ho, hc]

end SqlMapper

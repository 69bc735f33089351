/-!
Cutting a text at the first occurrence of a character. The two parts put together
around the character are the text again, and the first part does not hold it.
-/

namespace SqlMapper.Text

/-- What stands before the first `mark`, and what follows it if there is one. -/
def cut (mark : Char) : List Char → List Char × Option (List Char)
  | [] => ([], none)
  | c :: cs =>
    if c = mark then ([], some cs)
    else
      let (before, after) := cut mark cs
      (c :: before, after)

theorem cut_of_not_mem {mark : Char} {cs : List Char} (h : mark ∉ cs) : cut mark cs = (cs, none) := by
  induction cs with
  | nil => rfl
  | cons c cs ih =>
    simp only [List.mem_cons, not_or] at h
    simp [cut, Ne.symm h.1, ih h.2]

theorem cut_append {mark : Char} {before : List Char} (h : mark ∉ before) (after : List Char) :
    cut mark (before ++ mark :: after) = (before, some after) := by
  induction before with
  | nil => simp [cut]
  | cons c before ih =>
    simp only [List.mem_cons, not_or] at h
    simp [cut, Ne.symm h.1, ih h.2]

theorem cut_eq_none_iff {mark : Char} {cs before : List Char} :
    cut mark cs = (before, none) ↔ cs = before ∧ mark ∉ cs := by
  constructor
  · intro h
    by_cases hm : mark ∈ cs
    · obtain ⟨a, b, rfl, ha⟩ := List.eq_append_cons_of_mem hm
      simp [cut_append ha] at h
    · rw [cut_of_not_mem hm] at h
      simp_all
  · rintro ⟨rfl, h⟩
    exact cut_of_not_mem h

theorem cut_eq_some_iff {mark : Char} {cs before after : List Char} :
    cut mark cs = (before, some after) ↔ cs = before ++ mark :: after ∧ mark ∉ before := by
  constructor
  · intro h
    by_cases hm : mark ∈ cs
    · obtain ⟨a, b, rfl, ha⟩ := List.eq_append_cons_of_mem hm
      rw [cut_append ha] at h
      simp_all
    · simp [cut_of_not_mem hm] at h
  · rintro ⟨rfl, h⟩
    exact cut_append h after

theorem length_after_lt {mark : Char} {cs before after : List Char}
    (h : cut mark cs = (before, some after)) : after.length < cs.length := by
  rw [(cut_eq_some_iff.1 h).1]
  simp
  omega

end SqlMapper.Text

import Mathlib.Data.List.Basic

/-!
Moments of a history. A history is a list of what happened, and a moment of it is one of
its members, with what happened before it and what happened afterwards. Histories grow at
their end.
-/

namespace SqlMapper

variable {α : Type*}

theorem not_exists_moment_nil {p : List α → α → List α → Prop} :
    ¬ ∃ earlier x later, [] = earlier ++ x :: later ∧ p earlier x later := by
  rintro ⟨earlier, x, later, h, -⟩
  exact List.append_ne_nil_of_right_ne_nil earlier (List.cons_ne_nil x later) h.symm

theorem exists_moment_concat_iff {p : List α → α → List α → Prop} {l : List α} {y : α} :
    (∃ earlier x later, l ++ [y] = earlier ++ x :: later ∧ p earlier x later) ↔
      p l y [] ∨ ∃ earlier x later, l = earlier ++ x :: later ∧ p earlier x (later ++ [y]) := by
  constructor
  · rintro ⟨earlier, x, later, h, hp⟩
    rcases List.eq_nil_or_concat later with rfl | ⟨later, z, rfl⟩
    · obtain ⟨rfl, last⟩ := List.append_inj' h rfl
      cases last
      exact .inl hp
    · rw [List.concat_eq_append, ← List.cons_append, ← List.append_assoc] at h
      obtain ⟨rfl, last⟩ := List.append_inj' h rfl
      cases last
      rw [List.concat_eq_append] at hp
      exact .inr ⟨earlier, x, later, rfl, hp⟩
  · rintro (hp | ⟨earlier, x, later, rfl, hp⟩)
    · exact ⟨l, y, [], rfl, hp⟩
    · exact ⟨earlier, x, later ++ [y], by rw [List.append_assoc, List.cons_append], hp⟩

end SqlMapper

import SqlMapper.Text.Letters

/-!
What the tables of characters say together. Of a lowercase form that is not the character
itself every character is settled: it is no underscore, neither blank nor uppercase, and its
own lowercase form (`settled_of_lowerForm`). The forms of a run are a run as well, so this
says that two lists of runs have no code point in common. Lists are compared as numbers
whose bits are the code points (`bits`).
-/

namespace SqlMapper.Text

/-- What snake case relies on in a table of characters. An uppercase character may be
its own lowercase form, and a lowercase form may have several characters. -/
structure Letters.Regular (l : Letters) : Prop where
  lower_ne_nil : ∀ c, l.lower c ≠ []
  lower_visible : ∀ c, l.blank c = false → c ≠ '_' →
    ∀ d ∈ l.lower c, l.blank d = false ∧ d ≠ '_'
  lower_lower : ∀ c, (l.lower c).flatMap l.lower = l.lower c
  eq_of_upper : ∀ c, ∀ d ∈ l.lower c, l.upper d = true → d = c
  underscore : l.blank '_' = false ∧ l.upper '_' = false ∧ l.lower '_' = ['_']

theorem Letters.Regular.lower_eq_singleton {l : Letters} (regular : l.Regular) {c : Char}
    (kept : c ∈ l.lower c) : l.lower c = [c] := by
  obtain ⟨before, after, split⟩ := List.append_of_mem kept
  have lengths := congrArg List.length (regular.lower_lower c)
  rw [split, List.flatMap_append, List.flatMap_cons, split] at lengths
  simp only [List.length_append, List.length_cons] at lengths
  have noneBefore : before.flatMap l.lower = [] := List.eq_nil_of_length_eq_zero (by omega)
  have noneAfter : after.flatMap l.lower = [] := List.eq_nil_of_length_eq_zero (by omega)
  have empty {cs : List Char} (h : cs.flatMap l.lower = []) : cs = [] := by
    cases cs with
    | nil => rfl
    | cons d cs =>
      rw [List.flatMap_cons, List.append_eq_nil_iff] at h
      exact absurd h.1 (regular.lower_ne_nil d)
  rw [split, empty noneBefore, empty noneAfter, List.nil_append]

namespace Stretch

def multiples (k : Nat) : Nat → Nat
  | 0 => 0
  | m + 1 => 1 ||| multiples k m <<< k

theorem testBit_multiples (k : Nat) {m i : Nat} (h : i < m) :
    (multiples k m).testBit (k * i) = true := by
  induction m generalizing i with
  | zero => omega
  | succ m ih =>
    rw [multiples, Nat.testBit_or, Bool.or_eq_true]
    cases i with
    | zero =>
      rw [Nat.mul_zero]
      exact .inl rfl
    | succ i =>
      refine .inr ?_
      rw [Nat.testBit_shiftLeft, Nat.mul_succ, Nat.add_sub_cancel, ih (by omega)]
      simp

def bits (s : Stretch) : Nat := multiples s.stride ((s.last - s.first) / s.stride + 1) <<< s.first

theorem testBit_bits {s : Stretch} {n : Nat} (h : s.holds n = true) : s.bits.testBit n = true := by
  obtain ⟨above, below, step⟩ := (holds_iff s n).1 h
  have place : s.stride * ((n - s.first) / s.stride) = n - s.first :=
    Nat.mul_div_cancel' (Nat.dvd_of_mod_eq_zero step)
  have few : (n - s.first) / s.stride < (s.last - s.first) / s.stride + 1 :=
    Nat.lt_succ_of_le (Nat.div_le_div_right (by omega))
  have there := testBit_multiples s.stride few
  rw [place] at there
  rw [bits, Nat.testBit_shiftLeft, there]
  simpa using above

def proper (s : Stretch) : Bool := s.last < 0xd800 || (0xdfff < s.first && s.last < 0x110000)

theorem toNat_ofNat_of_proper {s : Stretch} {n : Nat} (h : s.proper = true)
    (hn : s.holds n = true) : (Char.ofNat n).toNat = n := by
  rw [holds_iff] at hn
  simp only [proper, Bool.or_eq_true, Bool.and_eq_true, decide_eq_true_eq] at h
  have valid : n.isValidChar := by
    show n < 0xd800 ∨ 0xdfff < n ∧ n < 0x110000
    omega
  rw [Char.ofNat, dif_pos valid]
  rfl

def shifted (s : Stretch) (shift : Int) : Stretch :=
  ⟨(s.first + shift).toNat, (s.last + shift).toNat, s.stride⟩

theorem holds_shifted {s : Stretch} {shift : Int} {n : Nat} (above : 0 ≤ s.first + shift)
    (h : s.holds n = true) : (s.shifted shift).holds (n + shift).toNat = true := by
  obtain ⟨low, high, step⟩ := (holds_iff s n).1 h
  have distance : (n + shift).toNat - (s.first + shift).toNat = n - s.first := by omega
  have atLeast : (s.first + shift).toNat ≤ (n + shift).toNat := by omega
  have atMost : (n + shift).toNat ≤ (s.last + shift).toNat := by omega
  rw [holds_iff]
  exact ⟨atLeast, atMost, by rw [← step, ← distance]; rfl⟩

end Stretch

def bits (runs : List Stretch) : Nat := runs.foldr (fun s m => s.bits ||| m) 0

theorem testBit_bits {runs : List Stretch} {s : Stretch} (hs : s ∈ runs) {n : Nat}
    (h : s.holds n = true) : (bits runs).testBit n = true := by
  induction runs with
  | nil => cases hs
  | cons t runs ih =>
    rw [bits, List.foldr_cons, Nat.testBit_or, Bool.or_eq_true]
    rcases List.mem_cons.1 hs with rfl | hs
    · exact .inl (Stretch.testBit_bits h)
    · exact .inr (ih hs)

def cased : List (Stretch × Int) :=
  lowerRuns.map fun (first, last, stride, shift) => (⟨first, last, stride⟩, shift)

/-- Runs of the characters that no other lowercase form has: the underscore, the dotted
capital I, blanks, uppercase characters, and those with another lowercase form. -/
def unsettled : List Stretch :=
  ⟨0x5f, 0x5f, 1⟩ :: ⟨0x130, 0x130, 1⟩ :: (blankRuns.map fun (first, last) => ⟨first, last, 1⟩) ++
    (upperRuns.map fun (first, last, stride) => ⟨first, last, stride⟩) ++ cased.map Prod.fst

theorem cased_proper : cased.all (fun (s, shift) =>
    decide (0 ≤ s.first + shift) && (s.shifted shift).proper) = true := by
  decide +kernel

theorem cased_settled :
    bits (cased.map fun (s, shift) => s.shifted shift) &&& bits unsettled = 0 := by
  decide +kernel

structure Settled (c : Char) : Prop where
  visible : isBlank c = false
  word : c ≠ '_'
  small : isUpper c = false
  lower : lowerForm c = [c]

theorem settled_of_holds_eq_false {c : Char} (h : ∀ s ∈ unsettled, s.holds c.toNat = false) :
    Settled c := by
  simp only [unsettled, List.cons_append, List.forall_mem_cons, List.forall_mem_append,
    List.forall_mem_map, cased] at h
  obtain ⟨underscore, dotted, ⟨blanks, uppers⟩, lowers⟩ := h
  refine ⟨?_, ?_, ?_, ?_⟩
  · rw [isBlank, inRuns, List.any_eq_false]
    intro r hr
    have outside := blanks r hr
    rw [Bool.eq_false_iff, ne_eq, Stretch.holds_iff] at outside
    simp only [Nat.mod_one, and_true] at outside
    simpa using outside
  · rintro rfl
    cases underscore
  · rw [isUpper, List.any_eq_false]
    rintro ⟨first, last, stride⟩ hr
    exact Bool.eq_false_iff.1 (uppers _ hr)
  · have other : c.toNat ≠ 0x130 := by
      intro eq
      rw [eq] at dotted
      cases dotted
    have none : lowerRuns.find? (fun (first, last, stride, _) =>
        (Stretch.mk first last stride).holds c.toNat) = none := by
      rw [List.find?_eq_none]
      rintro ⟨first, last, stride, shift⟩ hr
      exact Bool.eq_false_iff.1 (lowers _ hr)
    rw [lowerForm, if_neg other, none]

/-- The lowercase forms of a run are apart from all that is not settled. -/
theorem settled_shifted {s : Stretch} {shift : Int} (hs : (s, shift) ∈ cased) {n : Nat}
    (h : s.holds n = true) : Settled (Char.ofNat (n + shift).toNat) := by
  have proper := List.all_eq_true.1 cased_proper _ hs
  simp only [Bool.and_eq_true, decide_eq_true_eq] at proper
  have form := Stretch.holds_shifted proper.1 h
  refine settled_of_holds_eq_false fun t ht => ?_
  rw [Stretch.toNat_ofNat_of_proper proper.2 form, Bool.eq_false_iff]
  intro meets
  have among := List.mem_map_of_mem (f := fun (s, shift) => s.shifted shift) hs
  have inForms := testBit_bits among form
  have inBoth := congrArg (·.testBit (n + shift).toNat) cased_settled
  simp only [Nat.testBit_and, inForms, testBit_bits ht meets, Nat.zero_testBit] at inBoth
  cases inBoth

theorem settled_of_lowerForm (c : Char) :
    lowerForm c = [c] ∨ lowerForm c ≠ [] ∧ ∀ d ∈ lowerForm c, Settled d := by
  rw [lowerForm]
  split
  · refine .inr ⟨nofun, ?_⟩
    simp only [List.forall_mem_cons]
    refine ⟨⟨?_, ?_, ?_, ?_⟩, ⟨?_, ?_, ?_, ?_⟩, nofun⟩ <;> decide +kernel
  · split
    · next first last stride shift found =>
      have held := List.find?_some found
      have there : (Stretch.mk first last stride, shift) ∈ cased :=
        List.mem_map.2 ⟨_, List.mem_of_find?_eq_some found, rfl⟩
      refine .inr ⟨nofun, ?_⟩
      rw [List.forall_mem_singleton]
      exact settled_shifted there held
    · exact .inl rfl

theorem flatMap_lowerForm_of_settled {cs : List Char} (h : ∀ c ∈ cs, Settled c) :
    cs.flatMap lowerForm = cs := by
  induction cs with
  | nil => rfl
  | cons c cs ih =>
    rw [List.forall_mem_cons] at h
    rw [List.flatMap_cons, h.1.lower, ih h.2, List.singleton_append]

theorem unicode_regular : Letters.unicode.Regular := by
  -- A character is its own lowercase form, or every character of the form is settled.
  refine ⟨fun c => ?_, fun c visible word d hd => ?_, fun c => ?_, fun c d hd upper => ?_, ?_⟩
  · show lowerForm c ≠ []
    obtain own | ⟨nonempty, -⟩ := settled_of_lowerForm c
    · rw [own]
      nofun
    · exact nonempty
  · obtain own | ⟨-, settled⟩ := settled_of_lowerForm c
    · obtain rfl : d = c := List.mem_singleton.1 (own ▸ hd)
      exact ⟨visible, word⟩
    · exact ⟨(settled d hd).visible, (settled d hd).word⟩
  · show (lowerForm c).flatMap lowerForm = lowerForm c
    obtain own | ⟨-, settled⟩ := settled_of_lowerForm c
    · rw [own, List.flatMap_singleton, own]
    · exact flatMap_lowerForm_of_settled settled
  · obtain own | ⟨-, settled⟩ := settled_of_lowerForm c
    · exact List.mem_singleton.1 (own ▸ hd)
    · exact absurd upper (Bool.eq_false_iff.1 (settled d hd).small)
  · decide +kernel

end SqlMapper.Text

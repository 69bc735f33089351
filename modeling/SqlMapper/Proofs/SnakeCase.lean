import SqlMapper.Naming
import SqlMapper.Proofs.Lowercase

/-!
Laws of snake case. They need little of the letters in use: that every character has a
lowercase form, in which there are no blanks and no underscores and nothing is left to be
lowercased or set apart (`Letters.Regular`). A second application changes nothing, words are
written one after the other, and no character is lost (`snakeCase_laws`).
-/

namespace SqlMapper

namespace Text

def Letters.Blank (l : Letters) (s : String) : Prop := ∀ c ∈ s.toList, l.blank c = true

def Letters.Visible (l : Letters) (s : String) : Prop := ∃ c ∈ s.toList, l.blank c = false

def without (unwanted : Char → Bool) (s : String) : String :=
  String.ofList (s.toList.filter fun c => !unwanted c)

end Text

namespace Naming

open Text (Letters without)

variable {l : Letters} {last : Option Char} {gap : Bool} {c : Char} {cs : List Char}

theorem forall_snakeFrom {P : Char → Prop} (underscore : P '_')
    (lower : ∀ c ∈ cs, ∀ d ∈ l.lower c, P d) (last : Option Char) (gap : Bool) :
    ∀ d ∈ snakeFrom l last gap cs, P d := by
  induction cs generalizing last gap with
  | nil => simp [snakeFrom]
  | cons c cs ih =>
    rw [List.forall_mem_cons] at lower
    rw [snakeFrom]
    split
    · exact ih lower.2 _ _
    · simp only [List.forall_mem_append]
      refine ⟨⟨?_, lower.1⟩, ih lower.2 _ _⟩
      split <;> simp [underscore]

theorem snakeFrom_ne_nil (hc : c ∈ cs) (visible : l.blank c = false)
    (lower : l.lower c ≠ []) (last : Option Char) (gap : Bool) :
    snakeFrom l last gap cs ≠ [] := by
  induction cs generalizing last gap with
  | nil => cases hc
  | cons b cs ih =>
    rw [snakeFrom]
    rcases List.mem_cons.1 hc with rfl | later
    · simp [visible, lower]
    · split
      · exact ih later _ _
      · exact List.append_ne_nil_of_right_ne_nil _ (ih later _ _)

def written (l : Letters) (last : Option Char) (gap : Bool) (c : Char) : List Char :=
  (if (gap || l.upper c) && last.any (· != '_') then ['_'] else []) ++ l.lower c

theorem written_none (l : Letters) (gap : Bool) (c : Char) : written l none gap c = l.lower c := by
  simp [written]

theorem written_gap (l : Letters) (d c : Char) :
    written l (some d) true c = (if d = '_' then [] else ['_']) ++ l.lower c := by
  by_cases h : d = '_' <;> simp [written, h]

section Regular

variable (regular : l.Regular)
include regular

theorem getLast?_lower_or (c : Char) (last : Option Char) :
    (l.lower c).getLast?.or last = (l.lower c).getLast? := by
  rw [List.getLast?_eq_some_getLast (regular.lower_ne_nil c), Option.some_or]

theorem getLast?_written (last : Option Char) (gap : Bool) (c : Char) :
    (written l last gap c).getLast? = (l.lower c).getLast? := by
  rw [written, List.getLast?_append, getLast?_lower_or regular]

theorem flatMap_written (last : Option Char) (gap : Bool) (c : Char) :
    (written l last gap c).flatMap l.lower = written l last gap c := by
  rw [written, List.flatMap_append, regular.lower_lower]
  split <;> simp [regular.underscore.2.2]

theorem blank_lower (visible : l.blank c = false) : ∀ d ∈ l.lower c, l.blank d = false := by
  intro d hd
  by_cases h : c = '_'
  · rw [h, regular.underscore.2.2, List.mem_singleton] at hd
    rw [hd, regular.underscore.1]
  · exact (regular.lower_visible c visible h d hd).1

theorem filter_written (last : Option Char) (gap : Bool) (visible : l.blank c = false) :
    (written l last gap c).filter (· != '_') = if c = '_' then [] else l.lower c := by
  have apart (b : Bool) : (if b then ['_'] else []).filter (· != '_') = [] := by cases b <;> rfl
  rw [written, List.filter_append, apart, List.nil_append]
  by_cases h : c = '_'
  · rw [if_pos h, h, regular.underscore.2.2]
    rfl
  · rw [if_neg h]
    refine List.filter_eq_self.2 fun d hd => ?_
    simp [(regular.lower_visible c visible h d hd).2]

end Regular

theorem snakeFrom_blank (h : l.blank c = true) (cs : List Char) :
    snakeFrom l last gap (c :: cs) = snakeFrom l last last.isSome cs := by
  rw [snakeFrom, if_pos h]

theorem snakeFrom_visible (regular : l.Regular) (h : l.blank c = false) (cs : List Char) :
    snakeFrom l last gap (c :: cs) =
      written l last gap c ++ snakeFrom l (l.lower c).getLast? false cs := by
  rw [snakeFrom, if_neg (by simp [h])]
  show written l last gap c ++ snakeFrom l ((written l last gap c).getLast?.or last) false cs = _
  rw [getLast?_written regular, getLast?_lower_or regular]

theorem snakeFrom_of_blanks {w : List Char} (h : ∀ c ∈ w, l.blank c = true) :
    snakeFrom l last gap w = [] := by
  induction w generalizing gap with
  | nil => rfl
  | cons c w ih =>
    rw [List.forall_mem_cons] at h
    rw [snakeFrom_blank h.1, ih h.2]

/-- Of blanks only one thing is remembered: that they came, if anything was written before. -/
theorem snakeFrom_blanks_append {w : List Char} (h : ∀ c ∈ w, l.blank c = true) (cs : List Char) :
    snakeFrom l last last.isSome (w ++ cs) = snakeFrom l last last.isSome cs := by
  induction w with
  | nil => rfl
  | cons c w ih =>
    rw [List.forall_mem_cons] at h
    rw [List.cons_append, snakeFrom_blank h.1, ih h.2]

theorem snakeFrom_append_blanks {w : List Char} (nonempty : w ≠ [])
    (h : ∀ c ∈ w, l.blank c = true) (cs : List Char) :
    snakeFrom l last gap (w ++ cs) = snakeFrom l last last.isSome cs := by
  cases w with
  | nil => exact absurd rfl nonempty
  | cons c w =>
    rw [List.forall_mem_cons] at h
    rw [List.cons_append, snakeFrom_blank h.1, snakeFrom_blanks_append h.2]

/-- The rest of a name is written as after the last character written before it. Whether a
gap was left open is not told here. -/
theorem exists_snakeFrom_append (regular : l.Regular) (last : Option Char) (gap : Bool)
    (cs : List Char) : ∃ gap', ∀ rest,
      snakeFrom l last gap (cs ++ rest) = snakeFrom l last gap cs ++
        snakeFrom l ((snakeFrom l last gap cs).getLast?.or last) gap' rest := by
  induction cs generalizing last gap with
  | nil => exact ⟨gap, fun rest => rfl⟩
  | cons c cs ih =>
    cases h : l.blank c with
    | true =>
      obtain ⟨gap', same⟩ := ih last last.isSome
      refine ⟨gap', fun rest => ?_⟩
      rw [List.cons_append, snakeFrom_blank h, snakeFrom_blank h, same]
    | false =>
      obtain ⟨gap', same⟩ := ih (l.lower c).getLast? false
      refine ⟨gap', fun rest => ?_⟩
      rw [List.cons_append, snakeFrom_visible regular h, snakeFrom_visible regular h, same,
        List.append_assoc, List.getLast?_append, getLast?_written regular, Option.or_assoc,
        getLast?_lower_or regular]

theorem snakeFrom_gap (regular : l.Regular) (d : Char) {cs : List Char} (hc : c ∈ cs)
    (visible : l.blank c = false) : snakeFrom l (some d) true cs =
      (if d = '_' then [] else ['_']) ++ snakeFrom l none false cs := by
  induction cs with
  | nil => cases hc
  | cons b cs ih =>
    cases h : l.blank b with
    | true =>
      have later : c ∈ cs := by
        rcases List.mem_cons.1 hc with rfl | later
        · rw [h] at visible
          cases visible
        · exact later
      rw [snakeFrom_blank h, snakeFrom_blank h]
      exact ih later
    | false =>
      rw [snakeFrom_visible regular h, snakeFrom_visible regular h, written_gap, written_none,
        List.append_assoc]

theorem snakeFrom_calm (regular : l.Regular) {cs : List Char}
    (calm : ∀ c ∈ cs, l.blank c = false ∧ l.upper c = false) (rest : List Char) :
    snakeFrom l last false (cs ++ rest) = cs.flatMap l.lower ++
      snakeFrom l ((cs.flatMap l.lower).getLast?.or last) false rest := by
  induction cs generalizing last with
  | nil => rfl
  | cons c cs ih =>
    rw [List.forall_mem_cons] at calm
    have here : written l last false c = l.lower c := by simp [written, calm.1.2]
    rw [List.cons_append, snakeFrom_visible regular calm.1.1, here, ih calm.2, List.flatMap_cons,
      List.append_assoc, List.getLast?_append, Option.or_assoc, getLast?_lower_or regular]

/-- What was written for a character is written once more as it is. An uppercase character
that stays one is set apart from what is before it by the same underscore; where none was
written, there is nothing to set it apart from. -/
theorem snakeFrom_written (regular : l.Regular) (visible : l.blank c = false) (rest : List Char) :
    snakeFrom l last false (written l last gap c ++ rest) =
      written l last gap c ++ snakeFrom l (l.lower c).getLast? false rest := by
  by_cases stays : l.upper c = true ∧ c ∈ l.lower c
  · -- the second time its underscore is the last character written
    have lower := regular.lower_eq_singleton stays.2
    cases h : last.any (· != '_') with
    | true =>
      have here : written l last gap c = ['_', c] := by simp [written, stays.1, h, lower]
      have underscore : written l last false '_' = ['_'] := by
        simp [written, regular.underscore]
      have next : written l (some '_') false c = [c] := by simp [written, lower]
      rw [here, List.cons_append, snakeFrom_visible regular regular.underscore.1, underscore,
        regular.underscore.2.2, List.getLast?_singleton, List.singleton_append,
        List.singleton_append, snakeFrom_visible regular visible, next]
      rfl
    | false =>
      have here : written l last gap c = [c] := by simp [written, h, lower]
      have again : written l last false c = [c] := by simp [written, h, lower]
      rw [here, List.cons_append, List.nil_append, snakeFrom_visible regular visible, again]
  · -- nothing of what was written is blank or uppercase
    have calm : ∀ d ∈ written l last gap c, l.blank d = false ∧ l.upper d = false := by
      have underscore : ∀ b : Bool, ∀ d ∈ (if b then ['_'] else []),
          l.blank d = false ∧ l.upper d = false := by
        intro b d hd
        cases b with
        | true =>
          obtain rfl := List.mem_singleton.1 hd
          exact ⟨regular.underscore.1, regular.underscore.2.1⟩
        | false => cases hd
      rw [written, List.forall_mem_append]
      refine ⟨underscore _, fun d hd => ⟨blank_lower regular visible d hd, ?_⟩⟩
      rw [Bool.eq_false_iff]
      intro upper
      obtain rfl := regular.eq_of_upper c d hd upper
      exact stays ⟨upper, hd⟩
    rw [snakeFrom_calm regular calm, flatMap_written regular, getLast?_written regular,
      getLast?_lower_or regular]

theorem snakeFrom_snakeFrom (regular : l.Regular) (cs : List Char) :
    snakeFrom l last false (snakeFrom l last gap cs) = snakeFrom l last gap cs := by
  -- on the name read first, in any state: only the gap is lost the second time
  induction cs generalizing last gap with
  | nil => rfl
  | cons c cs ih =>
    cases h : l.blank c with
    | true => rw [snakeFrom_blank h, ih]
    | false => rw [snakeFrom_visible regular h, snakeFrom_written regular h, ih]

theorem filter_snakeFrom (regular : l.Regular) (last : Option Char) (gap : Bool)
    (cs : List Char) : (snakeFrom l last gap cs).filter (· != '_') =
      (cs.filter fun c => !l.blank c && c != '_').flatMap l.lower := by
  induction cs generalizing last gap with
  | nil => rfl
  | cons c cs ih =>
    cases h : l.blank c with
    | true =>
      rw [snakeFrom_blank h, ih, List.filter_cons_of_neg (by simp [h])]
    | false =>
      rw [snakeFrom_visible regular h, List.filter_append, filter_written regular _ _ h, ih]
      by_cases underscore : c = '_' <;> simp [h, underscore]

theorem snakeCase_snakeCase (regular : l.Regular) (s : String) :
    snakeCase l (snakeCase l s) = snakeCase l s := by
  rw [snakeCase, snakeCase, String.toList_ofList, snakeFrom_snakeFrom regular]

theorem snakeCase_between_blanks (regular : l.Regular) {w w' : String} (s : String)
    (h : l.Blank w) (h' : l.Blank w') : snakeCase l (w ++ s ++ w') = snakeCase l s := by
  have leading (cs : List Char) :
      snakeFrom l none false (w.toList ++ cs) = snakeFrom l none false cs :=
    snakeFrom_blanks_append h cs
  obtain ⟨gap, trailing⟩ := exists_snakeFrom_append regular none false s.toList
  rw [snakeCase, snakeCase, String.toList_append, String.toList_append, List.append_assoc, leading,
    trailing, snakeFrom_of_blanks h', List.append_nil]

theorem snakeCase_words (regular : l.Regular) {u w v : String} (first : l.Visible u)
    (nonempty : w ≠ "") (blanks : l.Blank w) (second : l.Visible v) :
    snakeCase l (u ++ w ++ v) = snakeCase l u ++
      (if (snakeCase l u).toList.getLast? = some '_' then "" else "_") ++ snakeCase l v := by
  obtain ⟨c, hc, visible⟩ := first
  obtain ⟨c', hc', visible'⟩ := second
  obtain ⟨gap, next⟩ := exists_snakeFrom_append regular none false u.toList
  have begun := snakeFrom_ne_nil hc visible (regular.lower_ne_nil c) none false
  have last := List.getLast?_eq_some_getLast begun
  have gapLeft : w.toList ≠ [] := by simpa using nonempty
  rw [snakeCase, String.toList_append, String.toList_append, List.append_assoc, next,
    Option.or_none, last, snakeFrom_append_blanks gapLeft blanks, Option.isSome_some,
    snakeFrom_gap regular _ hc' visible', String.ofList_append, String.ofList_append, snakeCase,
    snakeCase, String.toList_ofList, last, String.append_assoc]
  congr 2
  by_cases h : (snakeFrom l none false u.toList).getLast begun = '_' <;> simp [h]

theorem without_snakeCase (regular : l.Regular) (s : String) :
    without (· == '_') (snakeCase l s) =
      l.lowercase (without (fun c => l.blank c || c == '_') s) := by
  have kept := filter_snakeFrom regular none false s.toList
  simp only [without, snakeCase, Letters.lowercase, String.toList_ofList, Bool.not_or]
  exact congrArg String.ofList kept

/-- Snake case twice is snake case once, and blanks around a name do not matter. Two words with
blanks between them are written one after the other, set apart by one underscore. Without
the underscores all that is left is the lowercase form of what is left of the name without
its blanks and underscores. The letters in use are regular. -/
theorem snakeCase_laws :
    (∀ l : Letters, l.Regular →
      (∀ s, snakeCase l (snakeCase l s) = snakeCase l s) ∧
      (∀ w s w', l.Blank w → l.Blank w' → snakeCase l (w ++ s ++ w') = snakeCase l s) ∧
      (∀ u w v, l.Visible u → w ≠ "" → l.Blank w → l.Visible v →
        snakeCase l (u ++ w ++ v) = snakeCase l u ++
          (if (snakeCase l u).toList.getLast? = some '_' then "" else "_") ++ snakeCase l v) ∧
      ∀ s, without (· == '_') (snakeCase l s) =
        l.lowercase (without (fun c => l.blank c || c == '_') s)) ∧
    Letters.unicode.Regular := by
  refine ⟨fun l regular => ⟨snakeCase_snakeCase regular, ?_, ?_, without_snakeCase regular⟩,
    Text.unicode_regular⟩
  · intro w s w' leading trailing
    exact snakeCase_between_blanks regular s leading trailing
  · intro u w v first nonempty blanks second
    exact snakeCase_words regular first nonempty blanks second

theorem snakeCase_laws_bold :
    Letters.unicode.Visible "a𝐀_" ∧ Letters.unicode.Blank " \t" ∧ Letters.unicode.Visible "İx" ∧
      snakeCase .unicode ("a𝐀_" ++ " \t" ++ "İx") = "a_𝐀_i̇x" ∧
      snakeCase .unicode (" \t" ++ "a𝐀_" ++ " \t") = "a_𝐀_" ∧
      snakeCase .unicode "a_𝐀_" = "a_𝐀_" := by
  obtain ⟨laws, regular⟩ := snakeCase_laws
  obtain ⟨again, around, words, -⟩ := laws .unicode regular
  have first : Letters.unicode.Visible "a𝐀_" := ⟨'a', by decide, by decide +kernel⟩
  have second : Letters.unicode.Visible "İx" := ⟨'x', by decide, by decide +kernel⟩
  have blanks : Letters.unicode.Blank " \t" := by
    have all : " \t".toList.all Letters.unicode.blank = true := by decide +kernel
    exact List.all_eq_true.1 all
  have bold : snakeCase .unicode "a𝐀_" = "a_𝐀_" := by decide +kernel
  have dotted : snakeCase .unicode "İx" = "i̇x" := by decide +kernel
  refine ⟨first, blanks, second, ?_, ?_, ?_⟩
  · rw [words "a𝐀_" " \t" "İx" first (by decide) blanks second, bold, dotted]
    decide +kernel
  · rw [around " \t" "a𝐀_" " \t" blanks blanks, bold]
  · rw [← bold, again]

end Naming

end SqlMapper

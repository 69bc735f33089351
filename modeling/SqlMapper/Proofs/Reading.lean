import SqlMapper.Json.Reader
import SqlMapper.Proofs.Result

/-!
What is read from a JSON text. The members of an object are put in order wherever it
stands, however often the text repeats a key, so every value that is read is ordered
(`ordered_of_read`).
-/

namespace SqlMapper

theorem Fields.mem_of_mem_insertAll {α : Type} {entries : List (String × α)} {f : Fields α}
    {e : String × α} (h : e ∈ (f.insertAll entries).entries) : e ∈ f.entries ∨ e ∈ entries := by
  induction entries generalizing f with
  | nil => exact .inl h
  | cons x rest ih =>
    obtain h | h := ih h
    · rw [← get?_eq_some_iff, get?_insert] at h
      split at h
      · rename_i name
        have here : e = x := Prod.ext name (Option.some.inj h).symm
        rw [here]
        exact .inr List.mem_cons_self
      · exact .inl ((get?_eq_some_iff _ _ _).1 h)
    · exact .inr (List.mem_cons_of_mem _ h)

namespace Json

theorem ordered_ofList {entries : List (String × Json)} (each : ∀ m ∈ entries, m.2.Ordered) :
    (obj (Fields.ofList entries).entries).Ordered := by
  refine .obj _ (Fields.ofList entries).ascending fun m hm => ?_
  obtain hm | hm := Fields.mem_of_mem_insertAll hm
  · cases hm
  · exact each m hm

theorem ofFloat_ordered (x : Float) : (ofFloat x).Ordered := by
  rw [ofFloat]
  split
  · exact .num _
  · exact .null

namespace Reader

theorem wholeNumber_ordered (negative : Bool) (n : Nat) : (wholeNumber negative n).Ordered := by
  rw [wholeNumber]
  split
  · split
    · exact ofFloat_ordered _
    · split
      · exact .num _
      · exact ofFloat_ordered _
  · split
    · exact .num _
    · exact .null

theorem double_ordered {found : Option Float} {negative : Bool} {rest : List Char} {halt : Halt}
    {r : Json × List Char} (h : (match found with
      | some x => Except.ok (ofFloat (signed negative x), rest)
      | none => .error halt) = .ok r) : r.1.Ordered := by
  cases found with
  | none => cases h
  | some x =>
    cases h
    exact ofFloat_ordered _

theorem number_ordered {negative : Bool} {cs : List Char} {r : Json × List Char}
    (h : number negative cs = .ok r) : r.1.Ordered := by
  simp only [number, bind_eq_ok_iff] at h
  obtain ⟨⟨whole, _⟩, -, ⟨fraction, _⟩, -, ⟨exponent, rest⟩, -, h⟩ := h
  dsimp only at h
  split at h
  · split at h
    · exact double_ordered h
    · -- an exponent of too many digits
      split at h
      · cases h
        exact ofFloat_ordered _
      · cases h
  · split at h
    · exact double_ordered h
    · cases h
      exact wholeNumber_ordered _ _

theorem word_ordered {v : Json} (hv : v.Ordered) {letters cs : List Char} {r : Json × List Char}
    (h : word v letters cs = .ok r) : r.1.Ordered := by
  induction letters generalizing cs with
  | nil =>
    rw [word] at h
    cases h
    exact hv
  | cons l letters ih =>
    cases cs with
    | nil => cases h
    | cons c cs =>
      rw [word] at h
      split at h
      · exact ih h
      · cases h

structure Orderly (fuel : Nat) : Prop where
  value : ∀ depth cs r, value fuel depth cs = .ok r → r.1.Ordered
  items : ∀ depth cs r, items fuel depth cs = .ok r → ∀ v ∈ r.1, v.Ordered
  members : ∀ depth cs r, members fuel depth cs = .ok r → ∀ m ∈ r.1, m.2.Ordered

namespace Orderly

variable {fuel : Nat}

theorem value_succ (ih : Orderly fuel) (depth : Nat) (cs : List Char) (r : Json × List Char)
    (h : Reader.value (fuel + 1) depth cs = .ok r) : r.1.Ordered := by
  rw [Reader.value] at h
  split at h
  · cases h
  · exact word_ordered .null h
  · exact word_ordered (.bool true) h
  · exact word_ordered (.bool false) h
  · obtain ⟨_, -, rfl⟩ := map_eq_ok_iff.1 h
    exact .str _
  · -- a list: too deep, not ended, empty, or with items
    split at h
    · cases h
    · split at h
      · cases h
      · cases h
        exact .arr _ (by simp)
      · obtain ⟨⟨vs, _⟩, hvs, h⟩ := bind_eq_ok_iff.1 h
        cases h
        exact .arr _ (ih.items _ _ _ hvs)
  · -- an object, in the same four ways
    split at h
    · cases h
    · split at h
      · cases h
      · cases h
        exact .obj _ .nil (by simp)
      · obtain ⟨⟨ms, _⟩, hms, h⟩ := bind_eq_ok_iff.1 h
        cases h
        exact ordered_ofList (ih.members _ _ _ hms)
  · exact number_ordered h
  · split at h
    · exact number_ordered h
    · cases h

theorem items_succ (ih : Orderly fuel) (depth : Nat) (cs : List Char) (r : List Json × List Char)
    (h : Reader.items (fuel + 1) depth cs = .ok r) : ∀ v ∈ r.1, v.Ordered := by
  rw [Reader.items] at h
  obtain ⟨⟨v, rest⟩, hv, h⟩ := bind_eq_ok_iff.1 h
  have first := ih.value _ _ _ hv
  dsimp only at h
  split at h
  · cases h
  · obtain ⟨_, -, h⟩ := bind_eq_ok_iff.1 h
    obtain ⟨⟨vs, _⟩, hvs, h⟩ := bind_eq_ok_iff.1 h
    cases h
    exact List.forall_mem_cons.2 ⟨first, ih.items _ _ _ hvs⟩
  · cases h
    exact List.forall_mem_cons.2 ⟨first, by simp⟩
  · cases h

theorem members_succ (ih : Orderly fuel) (depth : Nat) (cs : List Char)
    (r : List (String × Json) × List Char)
    (h : Reader.members (fuel + 1) depth cs = .ok r) : ∀ m ∈ r.1, m.2.Ordered := by
  rw [Reader.members] at h
  obtain ⟨⟨name, _⟩, -, h⟩ := bind_eq_ok_iff.1 h
  obtain ⟨_, -, h⟩ := bind_eq_ok_iff.1 h
  obtain ⟨⟨v, rest⟩, hv, h⟩ := bind_eq_ok_iff.1 h
  have first := ih.value _ _ _ hv
  dsimp only at h
  split at h
  · cases h
  · obtain ⟨_, -, h⟩ := bind_eq_ok_iff.1 h
    obtain ⟨⟨ms, _⟩, hms, h⟩ := bind_eq_ok_iff.1 h
    cases h
    exact List.forall_mem_cons.2 ⟨first, ih.members _ _ _ hms⟩
  · cases h
    exact List.forall_mem_cons.2 ⟨first, by simp⟩
  · cases h

end Orderly

theorem orderly (fuel : Nat) : Orderly fuel := by
  induction fuel with
  | zero =>
    refine ⟨fun _ _ _ h => ?_, fun _ _ _ h => ?_, fun _ _ _ h => ?_⟩
    · cases h
    · cases h
    · cases h
  | succ fuel ih => exact ⟨ih.value_succ, ih.items_succ, ih.members_succ⟩

theorem leading_ordered {cs rest : List Char} {v : Json} (h : leading cs = .ok (v, rest)) :
    v.Ordered :=
  (orderly _).value _ _ _ h

/-- A text is read as an ordered value, in whatever order its keys are written. -/
theorem ordered_of_read {text : String} {v : Json} (h : read .ok text = .ok v) : v.Ordered := by
  obtain ⟨⟨v, rest⟩, hv, h⟩ := bind_eq_ok_iff.1 h
  obtain ⟨_, here, h⟩ := bind_eq_ok_iff.1 h
  obtain ⟨_, -, h⟩ := bind_eq_ok_iff.1 h
  cases here
  cases h
  cases hl : leading text.toList with
  | error halt =>
    rw [hl] at hv
    cases hv
  | ok r =>
    rw [hl] at hv
    cases hv
    exact leading_ordered hl

end Reader

end Json

end SqlMapper

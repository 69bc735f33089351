import SqlMapper.Placeholder

/-!
Markers by their place in a text. Counting on through a text from the left gives
the `j`-th question mark, wherever it stands, the number `j` beyond the start of
the count.
-/

namespace SqlMapper

/-- A text with its `j`-th question mark written as `mark j`, the first being
number one. -/
def replaceMarkers (mark : Nat → List Char) (text : List Char) : List Char :=
  (text.mapIdx fun p c => if c = '?' then mark ((text.take (p + 1)).count '?') else [c]).flatten

def PlaceholderStyle.marker : PlaceholderStyle → Nat → String
  | .question, _ => "?"
  | .dollar, k => "$" ++ toString k

theorem replaceMarkers_cons (mark : Nat → List Char) (c : Char) (cs : List Char) :
    replaceMarkers mark (c :: cs) =
      if c = '?' then mark 1 ++ replaceMarkers (fun j => mark (j + 1)) cs
      else c :: replaceMarkers mark cs := by
  by_cases h : c = '?'
  · subst h
    simp [replaceMarkers, List.mapIdx_cons]
  · simp [replaceMarkers, List.mapIdx_cons, h]

theorem toList_marker_dollar (k : Nat) :
    (PlaceholderStyle.marker .dollar k).toList = '$' :: Nat.toDigits 10 k := by
  simp [PlaceholderStyle.marker]

theorem numberMarkers_eq_replaceMarkers (n : Nat) (text : List Char) :
    numberMarkers n text =
      replaceMarkers (fun j => (PlaceholderStyle.marker .dollar (n + j)).toList) text := by
  induction text generalizing n with
  | nil => rfl
  | cons c cs ih =>
    rw [numberMarkers, replaceMarkers_cons]
    by_cases h : c = '?'
    · have shift : ∀ j, n + 1 + j = n + (j + 1) := fun j => by omega
      simp only [if_pos h, ih, toList_marker_dollar, shift, List.cons_append]
    · simp only [if_neg h, ih]

theorem replaceMarkers_question (text : List Char) :
    replaceMarkers (fun _ => ['?']) text = text := by
  induction text with
  | nil => rfl
  | cons c cs ih =>
    rw [replaceMarkers_cons, ih]
    split
    · rename_i h
      simp [h]
    · rfl

/-- In both styles a rendered text has the markers of the parameters after the
first `bound`. -/
theorem PlaceholderStyle.render_eq_replaceMarkers (style : PlaceholderStyle) (bound : Nat)
    (text : String) :
    style.render bound text =
      String.ofList (replaceMarkers (fun j => (style.marker (bound + j)).toList) text.toList) := by
  cases style with
  | question =>
    have mark (k : Nat) : (marker .question k).toList = ['?'] := by simp [marker]
    simp only [mark, replaceMarkers_question, String.ofList_toList]
    rfl
  | dollar => rw [render, numberMarkers_eq_replaceMarkers]

theorem PlaceholderStyle.render_append (style : PlaceholderStyle) (bound : Nat) (a b : String) :
    style.render bound (a ++ b) =
      style.render bound a ++ style.render (bound + a.toList.count '?') b := by
  cases style with
  | question => rfl
  | dollar => simp only [render, String.toList_append, numberMarkers_append, String.ofList_append]

theorem PlaceholderStyle.render_eq_self (style : PlaceholderStyle) (bound : Nat) {text : String}
    (h : '?' ∉ text.toList) : style.render bound text = text := by
  cases style with
  | question => rfl
  | dollar => rw [render, numberMarkers_eq_self bound h, String.ofList_toList]

theorem PlaceholderStyle.render_marker (style : PlaceholderStyle) (bound : Nat) :
    style.render bound "?" = style.marker (bound + 1) := by
  cases style with
  | question => rfl
  | dollar =>
    apply String.toList_inj.1
    rw [toList_marker_dollar]
    simp [render, numberMarkers]

end SqlMapper

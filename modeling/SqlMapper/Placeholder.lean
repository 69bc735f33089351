/-!
Placeholder styles. A statement marks the place of a parameter with `?`, or with
`$1`, `$2`, ... counted through the whole statement.
-/

namespace SqlMapper

inductive PlaceholderStyle where
  | question
  | dollar
deriving DecidableEq, Repr, Inhabited

def PlaceholderStyle.name : PlaceholderStyle → String
  | .question => "question"
  | .dollar => "dollar"

/-- Counts the `?` of a text on from `n` and writes each as its number. `n` parameters are
held already: it is the length of a list and never wraps. -/
def numberMarkers : Nat → List Char → List Char
  | _, [] => []
  | n, c :: rest =>
    if c = '?' then '$' :: Nat.toDigits 10 (n + 1) ++ numberMarkers (n + 1) rest
    else c :: numberMarkers n rest

theorem numberMarkers_append (n : Nat) (a b : List Char) :
    numberMarkers n (a ++ b) = numberMarkers n a ++ numberMarkers (n + a.count '?') b := by
  induction a generalizing n with
  | nil => simp [numberMarkers]
  | cons c a ih =>
    by_cases h : c = '?'
    · simp [numberMarkers, h, ih, Nat.add_assoc, Nat.add_comm 1]
    · simp [numberMarkers, h, ih]

theorem numberMarkers_eq_self (n : Nat) {a : List Char} (h : '?' ∉ a) : numberMarkers n a = a := by
  induction a generalizing n with
  | nil => rfl
  | cons c a ih =>
    simp only [List.mem_cons, not_or] at h
    simp [numberMarkers, Ne.symm h.1, ih n h.2]

def PlaceholderStyle.render (style : PlaceholderStyle) (bound : Nat) (text : String) : String :=
  match style with
  | .question => text
  | .dollar => String.ofList (numberMarkers bound text.toList)

end SqlMapper

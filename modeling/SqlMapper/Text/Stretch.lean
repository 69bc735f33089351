/-!
Sets of characters given by arithmetic runs of code points, the form in which
the property tables of this folder are written.
-/

namespace SqlMapper.Text

/-- Every `stride`-th code point from `first` to `last`. -/
structure Stretch where
  first : Nat
  last : Nat
  stride : Nat
deriving DecidableEq, Repr

def Stretch.holds (s : Stretch) (n : Nat) : Bool :=
  s.first ≤ n && n ≤ s.last && (n - s.first) % s.stride == 0

theorem Stretch.holds_iff (s : Stretch) (n : Nat) :
    s.holds n = true ↔ s.first ≤ n ∧ n ≤ s.last ∧ (n - s.first) % s.stride = 0 := by
  simp [Stretch.holds, and_assoc]

def inRuns (runs : List (Nat × Nat)) (c : Char) : Bool :=
  runs.any fun r => r.1 ≤ c.toNat && c.toNat ≤ r.2

end SqlMapper.Text

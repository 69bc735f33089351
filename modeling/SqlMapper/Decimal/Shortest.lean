/-!
The shortest decimal digits that read back as a given binary64 number. A finite
number is decoded into a whole significand and a power of two, the interval of
reals that round to it is taken (its ends count iff the significand is even),
and for 1, 2, ..., 17 digits the two neighbours of the number on that decimal
grid are tried: the first grid with a neighbour inside the interval wins. All
comparisons are exact: every real involved is a whole number of one fixed unit,
small enough for the finest double and the finest grid.
-/

namespace SqlMapper.Decimal

/-- A nonzero finite magnitude `significand * 2 ^ exponent`. `edge` says that the
next smaller double lies only half a step away. -/
structure Magnitude where
  significand : Nat
  exponent : Int
  edge : Bool
deriving DecidableEq, Repr

inductive Class where
  | nan
  | infinite (negative : Bool)
  | zero (negative : Bool)
  | finite (negative : Bool) (magnitude : Magnitude)
deriving DecidableEq, Repr

/-- Sign bit, eleven exponent bits biased by 1023, 52 fraction bits. -/
def classify (bits : UInt64) : Class :=
  let negative := bits >>> 63 == 1
  let biased := ((bits >>> 52) &&& 0x7ff).toNat
  let fraction := (bits &&& 0xfffffffffffff).toNat
  if biased = 2047 then
    if fraction = 0 then .infinite negative else .nan
  else if biased = 0 then
    if fraction = 0 then .zero negative
    else .finite negative ⟨fraction, -1074, false⟩
  else
    .finite negative
      ⟨0x10000000000000 + fraction, (biased : Int) - 1075, fraction = 0 && biased ≠ 1⟩

inductive Tie where
  | up
  | even
deriving DecidableEq, Repr

/-- `digits * 10 ^ exponent`, the last digit not zero. -/
structure Digits where
  digits : Nat
  exponent : Int
deriving DecidableEq, Repr

def finest : Nat := 342

def binaryFinest : Nat := 1076

/-- `m * 2 ^ e` in units of `2 ^ (-binaryFinest) * 10 ^ (-finest)`. -/
def binaryUnits (m : Nat) (e : Int) : Nat :=
  m * Nat.pow 2 (e + binaryFinest).toNat * Nat.pow 10 finest

def decimalUnits (d : Nat) (p : Int) : Nat :=
  d * Nat.pow 10 (p + finest).toNat * Nat.pow 2 binaryFinest

structure Interval where
  low : Nat
  value : Nat
  high : Nat
  closed : Bool

def Magnitude.interval (m : Magnitude) : Interval where
  low := binaryUnits (4 * m.significand - if m.edge then 1 else 2) (m.exponent - 2)
  value := binaryUnits (4 * m.significand) (m.exponent - 2)
  high := binaryUnits (4 * m.significand + 2) (m.exponent - 2)
  closed := m.significand % 2 = 0

def Interval.holds (i : Interval) (x : Nat) : Bool :=
  if i.closed then i.low ≤ x && x ≤ i.high else i.low < x && x < i.high

/-- The `p` with `10 ^ (p - 1) ≤ x < 10 ^ p`, for a positive `x` in units. -/
def decimalPoint (x : Nat) : Int :=
  ((Nat.toDigits 10 (x / Nat.pow 2 binaryFinest)).length : Int) - finest

def Interval.onGrid? (i : Interval) (tie : Tie) (p : Int) : Option Nat :=
  let step := decimalUnits 1 p
  let below := i.value / step
  let above := below + 1
  match i.holds (below * step), i.holds (above * step) with
  | false, false => none
  | true, false => some below
  | false, true => some above
  | true, true =>
    let down := i.value - below * step
    let up := above * step - i.value
    if down < up then some below
    else if up < down then some above
    else match tie with
      | .up => some above
      | .even => some (if below % 2 = 0 then below else above)

def Digits.trim : Nat → Nat → Int → Digits
  | 0, d, p => ⟨d, p⟩
  | fuel + 1, d, p => if d % 10 = 0 then Digits.trim fuel (d / 10) (p + 1) else ⟨d, p⟩

/-- Seventeen digits always suffice, so the last grid is only a formality. -/
def Magnitude.shortest (m : Magnitude) (tie : Tie) : Digits :=
  let i := m.interval
  let point := decimalPoint i.value
  let grids := (List.range 17).map fun (n : Nat) => point - 1 - (n : Int)
  match grids.findSome? fun p => (i.onGrid? tie p).map (·, p) with
  | some (d, p) => Digits.trim 17 d p
  | none => ⟨i.value / decimalUnits 1 (point - 17), point - 17⟩

def Digits.chars (d : Digits) : List Char := Nat.toDigits 10 d.digits

def Digits.point (d : Digits) : Int := d.chars.length + d.exponent

end SqlMapper.Decimal

import SqlMapper.Decimal.Shortest

/-!
Decimal texts of a double. A `Layout` says how the shortest digits are set:
which magnitudes are written with an exponent and whether a positive one has a
sign, whether a whole number carries `.0`, how equally near digits are chosen,
and what the special values read.
-/

namespace SqlMapper.Decimal

structure Layout where
  tie : Tie
  /-- A whole number written positionally ends in `.0`. -/
  pointZero : Bool
  /-- Exponent notation is used when the decimal point, counted from the first
  digit, is at or below this place. -/
  low : Option Int
  /-- Exponent notation is used when the decimal point is above this place. -/
  high : Option Int
  /-- A positive exponent is written with a plus. -/
  plus : Bool
deriving DecidableEq, Repr

def zeros (n : Nat) : String := String.ofList (List.replicate n '0')

def Layout.positional (l : Layout) (d : Digits) : String :=
  let cs := d.chars
  let point := d.point
  if point ≤ 0 then "0." ++ zeros (-point).toNat ++ String.ofList cs
  else if cs.length ≤ point.toNat then
    String.ofList cs ++ zeros (point.toNat - cs.length) ++ if l.pointZero then ".0" else ""
  else String.ofList (cs.take point.toNat) ++ "." ++ String.ofList (cs.drop point.toNat)

def Layout.scientific (l : Layout) (d : Digits) : String :=
  let mantissa := match d.chars with
    | [] => ""
    | [c] => c.toString
    | c :: rest => c.toString ++ "." ++ String.ofList rest
  let exponent := d.point - 1
  mantissa ++ "e" ++ (if l.plus && 0 < exponent then "+" else "") ++ toString exponent

def Layout.magnitude (l : Layout) (m : Magnitude) : String :=
  let d := m.shortest l.tie
  if (l.low.any (d.point ≤ ·)) || (l.high.any (· < d.point)) then l.scientific d
  else l.positional d

def Layout.text (l : Layout) (x : Float) : String :=
  match classify x.toBits with
  | .nan => "NaN"
  | .infinite negative => if negative then "-inf" else "inf"
  | .zero negative => (if negative then "-0" else "0") ++ if l.pointZero then ".0" else ""
  | .finite negative m => (if negative then "-" else "") ++ l.magnitude m

/-- The text of a number that is spliced or shown: never an exponent, and whole
numbers carry no point. -/
def plain : Layout := ⟨.up, false, none, none, false⟩

/-- The text of a number in a diagnostic listing: `1.0`, and an exponent from
`1e16` on and below `1e-4`. -/
def listed : Layout := ⟨.up, true, some (-4), some 16, false⟩

/-- The text of a number that a reader of rows rejected: `1.0`, and an exponent
from `1e+16` on and below `1e-5`. -/
def rejected : Layout := ⟨.even, true, some (-5), some 16, true⟩

end SqlMapper.Decimal

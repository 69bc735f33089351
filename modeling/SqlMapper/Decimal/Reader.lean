/-!
The double nearest to a decimal text: an optional sign, digits, an optional
fraction and an optional exponent. The names of the special values are read too.
-/

namespace SqlMapper.Decimal

def digitsValue (cs : List Char) : Nat :=
  cs.foldl (fun n c => 10 * n + (c.toNat - '0'.toNat)) 0

def splitSign : List Char → Bool × List Char
  | '-' :: cs => (true, cs)
  | '+' :: cs => (false, cs)
  | cs => (false, cs)

def exponent? : List Char → Option Int
  | [] => some 0
  | c :: cs =>
    if c = 'e' ∨ c = 'E' then
      let (negative, digits) := splitSign cs
      if digits.isEmpty || !digits.all Char.isDigit then none
      else some (if negative then -(digitsValue digits : Int) else digitsValue digits)
    else none

/-- `significand * 10 ^ exponent`, rounded to the nearest double. -/
def nearest (significand : Nat) (exponent : Int) : Float :=
  Float.ofScientific significand (exponent < 0) exponent.natAbs

def readMagnitude? (cs : List Char) : Option Float :=
  let whole := cs.takeWhile Char.isDigit
  let rest := cs.dropWhile Char.isDigit
  let (fraction, rest) := match rest with
    | '.' :: rest => (rest.takeWhile Char.isDigit, rest.dropWhile Char.isDigit)
    | _ => ([], rest)
  if whole.isEmpty && fraction.isEmpty then none
  else (exponent? rest).map fun e =>
    nearest (digitsValue (whole ++ fraction)) (e - fraction.length)

def read? (text : String) : Option Float :=
  let (negative, cs) := splitSign text.toList
  let magnitude :=
    if cs = ['i', 'n', 'f'] then some (1.0 / 0.0)
    else if cs = ['N', 'a', 'N'] then some (0.0 / 0.0)
    else readMagnitude? cs
  magnitude.map fun x => if negative then -x else x

end SqlMapper.Decimal

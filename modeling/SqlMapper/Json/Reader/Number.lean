import SqlMapper.Json
import SqlMapper.Json.Flaw

/-!
Reading numbers. Whole numbers of 64 bits are exact; other numbers take as many
digits as a 64-bit significand holds and are scaled by one power of ten after the
other, so their last bit need not be the nearest one. A number beyond every
double is refused.
-/

namespace SqlMapper.Json.Reader

def takeFitting : Nat → List Char → Nat × List Char
  | n, [] => (n, [])
  | n, c :: cs =>
    let next := 10 * n + (c.toNat - '0'.toNat)
    if next < 0x10000000000000000 then takeFitting next cs else (n, c :: cs)

def exponentBound : Nat := 0x80000000

/-- Digits are taken into the exponent while it stays below the bound; otherwise
the rest follows the digit that would exceed it. -/
def takeExponent : Nat → List Char → Nat ⊕ List Char
  | n, [] => .inl n
  | n, c :: cs =>
    let next := 10 * n + (c.toNat - '0'.toNat)
    if next < exponentBound then takeExponent next cs else .inr cs

def powerOfTen (n : Nat) : Float := Float.ofScientific 1 false n

/-- `x * 10 ^ e`, in steps that a power of ten can make; none when it exceeds
every double. -/
def scale (x : Float) (e : Int) : Option Float :=
  if e.natAbs ≤ 308 then
    if 0 ≤ e then
      let y := x * powerOfTen e.natAbs
      if y.isInf then none else some y
    else some (x / powerOfTen e.natAbs)
  else if x == 0 then some x
  else if 0 ≤ e then none
  else scale (x / powerOfTen 308) (e + 308)
termination_by e.natAbs

def signed (negative : Bool) (x : Float) : Float := if negative then -x else x

/-- A whole number; minus zero and what the signed range lacks are doubles. -/
def wholeNumber (negative : Bool) (n : Nat) : Json :=
  if negative then
    if n = 0 then ofFloat (-0.0)
    else if h : n ≤ 0x8000000000000000 then .num (.int (-(n : Int)) (by omega) (by omega))
    else ofFloat (-(Float.ofNat n))
  else if h : n < 0x10000000000000000 then .num (.ofNat n h) else .null

def digits (cs : List Char) : Except Halt (List Char × List Char) :=
  match cs.takeWhile Char.isDigit, cs.dropWhile Char.isDigit with
  | [], [] => .error (.atEnd .value)
  | [], rest => .error (.on .badNumber rest)
  | found, rest => .ok (found, rest)

def wholePart : List Char → Except Halt (List Char × List Char)
  | '0' :: rest =>
    if (rest.head?.any Char.isDigit) then .error (.on .badNumber rest) else .ok (['0'], rest)
  | cs => digits cs

def fractionPart : List Char → Except Halt (Option (List Char) × List Char)
  | '.' :: cs => do
    let (found, rest) ← digits cs
    return (some found, rest)
  | cs => .ok (none, cs)

def exponentPart : List Char → Except Halt (Option (Bool × List Char) × List Char)
  | [] => .ok (none, [])
  | c :: cs =>
    if c = 'e' ∨ c = 'E' then do
      let (down, cs) := match cs with
        | '+' :: cs => (false, cs)
        | '-' :: cs => (true, cs)
        | cs => (false, cs)
      let (found, rest) ← digits cs
      return (some (down, found), rest)
    else .ok (none, c :: cs)

def number (negative : Bool) (cs : List Char) : Except Halt (Json × List Char) := do
  let (whole, rest) ← wholePart cs
  let (fraction, rest) ← fractionPart rest
  let (exponent, rest) ← exponentPart rest
  let (head, dropped) := takeFitting 0 whole
  let (significand, lost) := takeFitting head (fraction.getD [])
  let places : Int := (dropped.length : Int) - ((fraction.getD []).length - lost.length : Nat)
  let double (e : Int) : Except Halt (Json × List Char) :=
    match scale (Float.ofNat significand) e with
    | some x => .ok (ofFloat (signed negative x), rest)
    | none => .error (.before .outOfRange rest)
  match exponent with
  | some (down, exponentDigits) =>
    match takeExponent 0 exponentDigits with
    | .inl e => double (places + if down then -(e : Int) else e)
    | .inr excess =>
      if significand = 0 || down then return (ofFloat (signed negative 0), rest)
      else throw (.before .outOfRange (excess ++ rest))
  | none =>
    if fraction.isSome || !dropped.isEmpty then double places
    else return (wholeNumber negative significand, rest)

end SqlMapper.Json.Reader

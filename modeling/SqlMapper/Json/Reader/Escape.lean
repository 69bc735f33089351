import SqlMapper.Json.Flaw

/-!
Reading strings with their escapes. A character beyond sixteen bits may be
written as the two halves of a surrogate pair; a half alone is refused.
-/

namespace SqlMapper.Json.Reader

def hexValue? (c : Char) : Option Nat :=
  if c.isDigit then some (c.toNat - '0'.toNat)
  else if 'a' ≤ c ∧ c ≤ 'f' then some (c.toNat - 'a'.toNat + 10)
  else if 'A' ≤ c ∧ c ≤ 'F' then some (c.toNat - 'A'.toNat + 10)
  else none

def hexUnit? (a b c d : Char) : Option Nat := do
  return ((← hexValue? a) * 16 + (← hexValue? b)) * 256 + (← hexValue? c) * 16 + (← hexValue? d)

/-- The unit that four hexadecimal digits write. Four bytes are looked at, even
where they end inside a character. -/
def hexUnit (cs : List Char) : Except Halt (Nat × List Char) :=
  match cs with
  | a :: b :: c :: d :: rest =>
    match hexUnit? a b c d with
    | some n => .ok (n, rest)
    | none => .error ⟨.badEscape, Text.byteLength cs - 4⟩
  | _ =>
    if Text.byteLength cs < 4 then .error (.atEnd .string)
    else .error ⟨.badEscape, Text.byteLength cs - 4⟩

theorem hexUnit_shortens {cs rest : List Char} {n : Nat} (h : hexUnit cs = .ok (n, rest)) :
    rest.length < cs.length := by
  unfold hexUnit at h
  split at h
  · split at h
    · simp only [Except.ok.injEq, Prod.mk.injEq] at h
      simp [← h.2]
      omega
    · simp at h
  · split at h <;> simp at h

def isHigh (n : Nat) : Bool := 0xd800 ≤ n && n ≤ 0xdbff

def isLow (n : Nat) : Bool := 0xdc00 ≤ n && n ≤ 0xdfff

def joinPair (high low : Nat) : Char :=
  Char.ofNat (0x10000 + (high - 0xd800) * 0x400 + (low - 0xdc00))

def pairMark (mark : Char) : List Char → Except Halt (List Char)
  | [] => .error (.atEnd .string)
  | c :: cs => if c = mark then .ok cs else .error (.on .noSecondHalf (c :: cs))

theorem pairMark_shortens {mark : Char} {cs rest : List Char}
    (h : pairMark mark cs = .ok rest) : rest.length < cs.length := by
  unfold pairMark at h
  split at h
  · simp at h
  · split at h
    · simp only [Except.ok.injEq] at h
      simp [h]
    · simp at h

def secondHalf (high : Nat) (cs : List Char) : Except Halt (Char × List Char) :=
  match pairMark '\\' cs with
  | .error e => .error e
  | .ok cs =>
    match pairMark 'u' cs with
    | .error e => .error e
    | .ok cs =>
      match hexUnit cs with
      | .error e => .error e
      | .ok (low, rest) =>
        if isLow low then .ok (joinPair high low, rest) else .error (.before .loneHalf rest)

theorem secondHalf_shortens {high : Nat} {cs rest : List Char} {c : Char}
    (h : secondHalf high cs = .ok (c, rest)) : rest.length < cs.length := by
  unfold secondHalf at h
  split at h
  · simp at h
  rename_i h1
  split at h
  · simp at h
  rename_i h2
  split at h
  · simp at h
  rename_i h3
  split at h
  · simp only [Except.ok.injEq, Prod.mk.injEq] at h
    have := pairMark_shortens h1
    have := pairMark_shortens h2
    have := hexUnit_shortens h3
    rw [← h.2]
    omega
  · simp at h

def escaped? : Char → Option Char
  | '"' => some '"'
  | '\\' => some '\\'
  | '/' => some '/'
  | 'b' => some '\x08'
  | 'f' => some '\x0c'
  | 'n' => some '\n'
  | 'r' => some '\r'
  | 't' => some '\t'
  | _ => none

def escape : List Char → Except Halt (Char × List Char)
  | [] => .error (.atEnd .string)
  | c :: cs =>
    if c = 'u' then
      match hexUnit cs with
      | .error e => .error e
      | .ok (n, rest) =>
        if isLow n then .error (.before .loneHalf rest)
        else if isHigh n then secondHalf n rest
        else .ok (Char.ofNat n, rest)
    else
      match escaped? c with
      | some d => .ok (d, cs)
      | none => .error (.on .badEscape (c :: cs))

theorem escape_shortens {cs rest : List Char} {c : Char} (h : escape cs = .ok (c, rest)) :
    rest.length < cs.length := by
  unfold escape at h
  split at h
  · simp at h
  · rw [List.length_cons]
    split at h
    · split at h
      · simp at h
      · rename_i hu
        have hu := hexUnit_shortens hu
        split at h
        · simp at h
        · split at h
          · have := secondHalf_shortens h
            omega
          · simp only [Except.ok.injEq, Prod.mk.injEq] at h
            rw [← h.2]
            omega
    · split at h
      · simp only [Except.ok.injEq, Prod.mk.injEq] at h
        rw [h.2]
        omega
      · simp at h

def string (cs : List Char) : Except Halt (List Char × List Char) :=
  match cs with
  | [] => .error (.atEnd .string)
  | c :: cs =>
    if c = '"' then .ok ([], cs)
    else if c = '\\' then
      match _escape : escape cs with
      | .error e => .error e
      | .ok (d, rest) => (string rest).map fun r => (d :: r.1, r.2)
    else if c.toNat < 0x20 then .error (.on .controlCharacter (c :: cs))
    else (string cs).map fun r => (c :: r.1, r.2)
termination_by cs.length
decreasing_by
  · exact Nat.lt_succ_of_lt (escape_shortens _escape)
  · exact Nat.lt_succ_self _

end SqlMapper.Json.Reader

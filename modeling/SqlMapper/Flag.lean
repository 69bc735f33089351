import SqlMapper.Mapping
import SqlMapper.Placeholder

/-!
Expressions of a template: a word, which names an entry of the data, between the
two affixes of a flag. The flag says which condition or list the entry becomes.
The affixes hold no word characters and no two flags have the same ones, so an
expression has at most one reading (`Expression.read?_eq_some_iff`).
-/

namespace SqlMapper

inductive Flag where
  /-- The values themselves, as parameters. -/
  | list
  /-- The values as text of the statement. -/
  | splice
  | equal
  | unequal
  | above
  | atLeast
  | below
  | atMost
  | endingIn
  | containing
  | startingWith
deriving DecidableEq, Repr

structure Fragment where
  text : String
  values : List Scalar

/-- Characters of an identifier: ASCII letters, digits and the underscore. -/
def isWordChar (c : Char) : Bool := c == '_' || c.isAlphanum

def identifierIn (text : String) : String := String.ofList (text.toList.filter isWordChar)

def isIdentifier (s : String) : Bool := s != "" && s.toList.all isWordChar

theorem isIdentifier_iff (s : String) :
    isIdentifier s = true ↔ s ≠ "" ∧ ∀ c ∈ s.toList, isWordChar c = true := by
  simp [isIdentifier]

def markers (values : List Scalar) : String :=
  String.intercalate ", " (values.map fun _ => "?")

/-- `field operator ?` for each value, joined by `or`; more than one is put in
parentheses. -/
def comparison (field : String) (values : List Scalar) (operator : String) : Fragment :=
  let condition :=
    String.intercalate " or " (values.map fun _ => field ++ " " ++ operator ++ " ?")
  ⟨if 1 < values.length then "(" ++ condition ++ ")" else condition, values⟩

def condition (field operator : String) (v : Scalar) : Fragment :=
  ⟨field ++ " " ++ operator ++ " ?", [v]⟩

def direct : Bindable → Fragment
  | .one v => ⟨"?", [v]⟩
  | .many vs => ⟨markers vs, vs⟩

/-- More than one value of a list are members of it. A shorter list compares as its
first value, and as null when it is empty. -/
def membership (field : String) (value : Bindable) (one several : String) : Fragment :=
  match value with
  | .one v => condition field one v
  | .many vs =>
    if 1 < vs.length then ⟨field ++ " " ++ several ++ " (" ++ markers vs ++ ")", vs⟩
    else condition field one (vs.headD .null)

theorem direct_eq (value : Bindable) : direct value = ⟨markers value.values, value.values⟩ := by
  cases value <;> rfl

theorem membership_eq (field : String) (value : Bindable) (one several : String) :
    membership field value one several =
      if 1 < value.values.length then
        ⟨field ++ " " ++ several ++ " (" ++ markers value.values ++ ")", value.values⟩
      else condition field one (value.values.headD .null) := by
  cases value <;> rfl

def likeness (field : String) (values : List Scalar) (before after : String) : Fragment :=
  comparison field (values.map fun v => .text (before ++ v.literal ++ after)) "like"

namespace Flag

def all : List Flag :=
  [list, splice, equal, unequal, above, atLeast, below, atMost, endingIn, containing, startingWith]

def opening : Flag → List Char
  | list => []
  | splice => ['*']
  | equal => ['=']
  | unequal => ['!']
  | above => ['>']
  | atLeast => ['>', '=']
  | below => ['<']
  | atMost => ['<', '=']
  | endingIn => ['%']
  | containing => ['%']
  | startingWith => []

def closing : Flag → List Char
  | containing => ['%']
  | startingWith => ['%']
  | _ => []

theorem opening_noWord (f : Flag) : ∀ c ∈ f.opening, isWordChar c = false := by
  cases f <;> simp [opening] <;> decide

theorem closing_noWord (f : Flag) : ∀ c ∈ f.closing, isWordChar c = false := by
  cases f <;> simp [closing] <;> decide

/-- A flag as it is written about the word `id`. -/
def pattern (f : Flag) : String := String.ofList (f.opening ++ ['i', 'd'] ++ f.closing)

def ofPattern? (s : String) : Option Flag := all.find? fun f => f.pattern == s

/-- Spliced text is final: its question marks are not markers. -/
def binds : Flag → Bool
  | splice => false
  | _ => true

def fragment (f : Flag) (identifier : String) (value : Bindable) : Fragment :=
  match f with
  | list => direct value
  | splice => ⟨String.intercalate ", " (value.values.map Scalar.literal), []⟩
  | equal => membership identifier value "=" "in"
  | unequal => membership identifier value "!=" "not in"
  | above => comparison identifier value.values ">"
  | atLeast => comparison identifier value.values ">="
  | below => comparison identifier value.values "<"
  | atMost => comparison identifier value.values "<="
  | endingIn => likeness identifier value.values "%" ""
  | containing => likeness identifier value.values "%" "%"
  | startingWith => likeness identifier value.values "" "%"

end Flag

structure Expression where
  flag : Flag
  identifier : String
deriving DecidableEq

namespace Expression

def chars (e : Expression) : List Char := e.flag.opening ++ e.identifier.toList ++ e.flag.closing

def read? (cs : List Char) : Option Expression :=
  let opening := cs.takeWhile (!isWordChar ·)
  let rest := cs.dropWhile (!isWordChar ·)
  let word := rest.takeWhile isWordChar
  let closing := rest.dropWhile isWordChar
  if word.isEmpty then none
  else
    (Flag.all.find? fun f => f.opening == opening && f.closing == closing).map
      fun f => ⟨f, String.ofList word⟩

private theorem find?_affixes (f : Flag) :
    (Flag.all.find? fun g => g.opening == f.opening && g.closing == f.closing) = some f := by
  cases f <;> decide

theorem split_word {opening word closing : List Char}
    (ho : ∀ c ∈ opening, isWordChar c = false) (hw : ∀ c ∈ word, isWordChar c = true)
    (hc : ∀ c ∈ closing, isWordChar c = false) (hne : word ≠ []) :
    (opening ++ word ++ closing).takeWhile (!isWordChar ·) = opening ∧
      (opening ++ word ++ closing).dropWhile (!isWordChar ·) = word ++ closing ∧
      (word ++ closing).takeWhile isWordChar = word ∧
      (word ++ closing).dropWhile isWordChar = closing := by
  obtain ⟨w, ws, rfl⟩ := List.exists_cons_of_ne_nil hne
  have ho' : ∀ c ∈ opening, (!isWordChar c) = true := fun c h => by simp [ho c h]
  have hw1 : isWordChar w = true := hw w (by simp)
  rw [List.append_assoc, List.takeWhile_append_of_pos ho', List.dropWhile_append_of_pos ho',
    List.takeWhile_append_of_pos hw, List.dropWhile_append_of_pos hw]
  cases closing with
  | nil => simp [hw1]
  | cons c closing => simp [hw1, hc c (by simp)]

theorem read?_eq_some_iff (cs : List Char) (e : Expression) :
    read? cs = some e ↔ isIdentifier e.identifier = true ∧ cs = e.chars := by
  constructor
  · intro h
    simp only [read?] at h
    split at h
    · simp at h
    · rename_i hne
      obtain ⟨f, hf, rfl⟩ := Option.map_eq_some_iff.1 h
      have hf' := List.find?_some hf
      simp only [Bool.and_eq_true, beq_iff_eq] at hf'
      constructor
      · rw [isIdentifier_iff]
        constructor
        · intro hw
          apply hne
          simpa using hw
        · intro c hc
          rw [String.toList_ofList] at hc
          exact List.all_eq_true.1 List.all_takeWhile c hc
      · simp only [chars, String.toList_ofList, hf'.1, hf'.2, List.append_assoc]
        rw [List.takeWhile_append_dropWhile, List.takeWhile_append_dropWhile]
  · rintro ⟨hi, rfl⟩
    obtain ⟨f, id⟩ := e
    rw [isIdentifier_iff] at hi
    have hne : id.toList ≠ [] := by simpa using hi.1
    obtain ⟨h1, h2, h3, h4⟩ := split_word f.opening_noWord hi.2 f.closing_noWord hne
    simp only [read?, chars, h1, h2, h3, h4, find?_affixes]
    simp [hi.1]

end Expression

end SqlMapper

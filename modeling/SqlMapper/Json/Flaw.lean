import SqlMapper.Text.Bytes

/-!
What keeps a text from being JSON, and where. Reading halts on a character or
behind one; the place is kept as the number of bytes that were not read.
-/

namespace SqlMapper.Json

inductive Part where
  | list
  | object
  | string
  | value
deriving DecidableEq, Repr

inductive Flaw where
  | ended (inside : Part)
  | noValue
  | noWord
  | noColon
  | noListEnd
  | noObjectEnd
  | noKey
  | badNumber
  /-- A number that exceeds every double. -/
  | outOfRange
  | badEscape
  | controlCharacter
  /-- A half of a surrogate pair without the other one. -/
  | loneHalf
  /-- A first half that no escape follows. -/
  | noSecondHalf
  | trailingComma
  | trailingCharacters
  | tooDeep
deriving DecidableEq, Repr

def Part.phrase : Part → String
  | .list => "a list"
  | .object => "an object"
  | .string => "a string"
  | .value => "a value"

def Flaw.phrase : Flaw → String
  | .ended inside => "EOF while parsing " ++ inside.phrase
  | .noValue => "expected value"
  | .noWord => "expected ident"
  | .noColon => "expected `:`"
  | .noListEnd => "expected `,` or `]`"
  | .noObjectEnd => "expected `,` or `\x7d`"
  | .noKey => "key must be a string"
  | .badNumber => "invalid number"
  | .outOfRange => "number out of range"
  | .badEscape => "invalid escape"
  | .controlCharacter => "control character (\\u0000-\\u001F) found while parsing a string"
  | .loneHalf => "lone leading surrogate in hex escape"
  | .noSecondHalf => "unexpected end of hex escape"
  | .trailingComma => "trailing comma"
  | .trailingCharacters => "trailing characters"
  | .tooDeep => "recursion limit exceeded"

/-- A flaw, and how many bytes of the text were not read. -/
structure Halt where
  flaw : Flaw
  left : Nat
deriving DecidableEq, Repr

namespace Halt

/-- On the first byte of the rest; at the end of the text, there. -/
def on (flaw : Flaw) (rest : List Char) : Halt := ⟨flaw, Text.byteLength rest - 1⟩

def before (flaw : Flaw) (rest : List Char) : Halt := ⟨flaw, Text.byteLength rest⟩

def atEnd (inside : Part) : Halt := ⟨.ended inside, 0⟩

end Halt

end SqlMapper.Json

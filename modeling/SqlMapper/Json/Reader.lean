import SqlMapper.Fields
import SqlMapper.Json.Reader.Escape
import SqlMapper.Json.Reader.Number
import SqlMapper.Record.Fault

/-!
Reading a JSON text. Values may be nested 127 deep. A text is read as far as its
value goes; only when the value is accepted, what follows it is looked at.
-/

namespace SqlMapper.Json.Reader

open SqlMapper.Record (Fault)

def isSpace (c : Char) : Bool := c == ' ' || c == '\n' || c == '\t' || c == '\r'

def skip (cs : List Char) : List Char := cs.dropWhile isSpace

def word (v : Json) : (letters cs : List Char) → Except Halt (Json × List Char)
  | [], cs => .ok (v, cs)
  | _ :: _, [] => .error (.atEnd .value)
  | l :: letters, c :: cs =>
    if l = c then word v letters cs else .error (.on .noWord (c :: cs))

def colon (cs : List Char) : Except Halt (List Char) :=
  match skip cs with
  | [] => .error (.atEnd .object)
  | ':' :: rest => .ok rest
  | rest => .error (.on .noColon rest)

def key (cs : List Char) : Except Halt (String × List Char) :=
  match cs with
  | '"' :: rest => (string rest).map fun r => (String.ofList r.1, r.2)
  | rest => .error (.on .noKey rest)

def afterComma (close : Char) (cs : List Char) : Except Halt (List Char) :=
  match skip cs with
  | [] => .error (.atEnd .value)
  | c :: rest => if c = close then .error (.on .trailingComma (c :: rest)) else .ok (c :: rest)

mutual

/-- A value, `depth` more levels being allowed. Every other step consumes a
character, so twice their number is enough `fuel`. -/
def value : (fuel depth : Nat) → List Char → Except Halt (Json × List Char)
  | 0, _, cs => .error (.on .noValue cs)
  | fuel + 1, depth, cs =>
    match skip cs with
    | [] => .error (.atEnd .value)
    | 'n' :: rest => word .null ['u', 'l', 'l'] rest
    | 't' :: rest => word (.bool true) ['r', 'u', 'e'] rest
    | 'f' :: rest => word (.bool false) ['a', 'l', 's', 'e'] rest
    | '"' :: rest => (string rest).map fun r => (.str (String.ofList r.1), r.2)
    | '[' :: rest =>
      if depth ≤ 1 then .error (.before .tooDeep rest)
      else match skip rest with
        | [] => .error (.atEnd .list)
        | ']' :: rest => .ok (.arr [], rest)
        | rest => do
          let (vs, rest) ← items fuel (depth - 1) rest
          return (.arr vs, rest)
    | '\x7b' :: rest =>
      if depth ≤ 1 then .error (.before .tooDeep rest)
      else match skip rest with
        | [] => .error (.atEnd .object)
        | '\x7d' :: rest => .ok (.obj [], rest)
        | rest => do
          let (ms, rest) ← members fuel (depth - 1) rest
          return (.obj (Fields.ofList ms).entries, rest)
    | '-' :: rest => number true rest
    | c :: rest => if c.isDigit then number false (c :: rest) else .error (.on .noValue (c :: rest))

def items : (fuel depth : Nat) → List Char → Except Halt (List Json × List Char)
  | 0, _, cs => .error (.on .noValue cs)
  | fuel + 1, depth, cs => do
    let (v, rest) ← value fuel depth cs
    match skip rest with
    | [] => throw (.atEnd .list)
    | ',' :: rest => do
      let (vs, rest) ← items fuel depth (← afterComma ']' rest)
      return (v :: vs, rest)
    | ']' :: rest => return ([v], rest)
    | rest => throw (.on .noListEnd rest)

def members : (fuel depth : Nat) → List Char → Except Halt (List (String × Json) × List Char)
  | 0, _, cs => .error (.on .noValue cs)
  | fuel + 1, depth, cs => do
    let (name, rest) ← key cs
    let (v, rest) ← value fuel depth (← colon rest)
    match skip rest with
    | [] => throw (.atEnd .object)
    | ',' :: rest => do
      let (ms, rest) ← members fuel depth (← afterComma '\x7d' rest)
      return ((name, v) :: ms, rest)
    | '\x7d' :: rest => return ([(name, v)], rest)
    | rest => throw (.on .noObjectEnd rest)

end

def leading (cs : List Char) : Except Halt (Json × List Char) := value (2 * cs.length + 1) 128 cs

def ending (cs : List Char) : Except Halt Unit :=
  match skip cs with
  | [] => .ok ()
  | rest => .error (.on .trailingCharacters rest)

def faultIn (text : String) (h : Halt) : Fault :=
  let bytes := text.toUTF8.data.toList
  let (line, column) := Text.position (bytes.take (bytes.length - h.left))
  .text h.flaw line column

def read {α : Type} (accept : Json → Except Fault α) (text : String) : Except Fault α := do
  let (v, rest) ← (leading text.toList).mapError (faultIn text)
  let a ← accept v
  (ending rest).mapError (faultIn text)
  return a

end SqlMapper.Json.Reader

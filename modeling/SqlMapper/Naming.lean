import SqlMapper.Text.Letters

/-!
Naming conventions: from the name of a type to the names of its table and of the
columns that refer to it. Words are separated by blanks or begin with an
uppercase character; they are lowercased and joined by underscores.
-/

namespace SqlMapper.Naming

open Text (Letters)

/-- The words of what is left of a name. `last` is the last character written so
far, and `gap` says that blanks came after it. -/
def snakeFrom (l : Letters) : Option Char → Bool → List Char → List Char
  | _, _, [] => []
  | last, gap, c :: cs =>
    if l.blank c then snakeFrom l last last.isSome cs
    else
      let apart := (gap || l.upper c) && last.any (· != '_')
      let written := (if apart then ['_'] else []) ++ l.lower c
      written ++ snakeFrom l (written.getLast?.or last) false cs

/-- `BlogPost` and `blog post` are `blog_post`. -/
def snakeCase (l : Letters) (s : String) : String := String.ofList (snakeFrom l none false s.toList)

def pluralize (s : String) : String := s ++ "s"

def tableName (model : String) : String := pluralize (snakeCase .unicode model)

def relationKey (model : String) : String := snakeCase .unicode model ++ "_id"

def afterLastSeparator : List Char → Option (List Char)
  | [] => none
  | c :: cs =>
    match afterLastSeparator cs with
    | some r => some r
    | none =>
      match cs with
      | [] => none
      | d :: rest => if c = ':' ∧ d = ':' then some rest else none

def simpleName (path : String) : String :=
  let base := path.toList.takeWhile (· != '<')
  String.ofList ((afterLastSeparator base).getD base)

end SqlMapper.Naming

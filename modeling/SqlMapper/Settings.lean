import SqlMapper.Error
import SqlMapper.Fields
import SqlMapper.Placeholder
import SqlMapper.Text.Letters

/-!
Settings of a mapper: how placeholders are written, whether metadata is kept in
the cache, and whether queries are logged. They are read from named variables,
which hold words in any case and between blanks, or from JSON. What is not given
keeps its default.
-/

namespace SqlMapper

structure Settings where
  placeholder : PlaceholderStyle := .question
  cacheMetadata : Bool := true
  logQueries : Bool := false
deriving DecidableEq, Repr, Inhabited

namespace Settings

def placeholderVariable : String := "BRACE_ORM_PLACEHOLDER"

def cacheVariable : String := "BRACE_ORM_CACHE_METADATA"

def logVariable : String := "BRACE_ORM_LOG_QUERIES"

def normalized (value : String) : String := Text.Letters.unicode.lowercase (Text.Letters.unicode.trim value)

def readStyle (value : String) : Except SettingError PlaceholderStyle :=
  match normalized value with
  | "question" | "?" => .ok .question
  | "dollar" | "$" => .ok .dollar
  | _ => .error ⟨placeholderVariable, value⟩

def readFlag (setting value : String) : Except SettingError Bool :=
  match normalized value with
  | "1" | "true" | "yes" | "on" => .ok true
  | "0" | "false" | "no" | "off" => .ok false
  | _ => .error ⟨setting, value⟩

def orDefault {α : Type} (value : Option String) (default : α)
    (read : String → Except SettingError α) : Except SettingError α :=
  match value with
  | none => .ok default
  | some v => read v

def ofLookup (lookup : String → Option String) : Except SettingError Settings := do
  let standard : Settings := {}
  let placeholder ← orDefault (lookup placeholderVariable) standard.placeholder readStyle
  let cacheMetadata ← orDefault (lookup cacheVariable) standard.cacheMetadata (readFlag cacheVariable)
  let logQueries ← orDefault (lookup logVariable) standard.logQueries (readFlag logVariable)
  return { placeholder, cacheMetadata, logQueries }

open Record (Fault Wanted)

def recordName : String := "OrmConfig"

def styleOfName (name : String) : Except Fault PlaceholderStyle :=
  if name = "question" then .ok .question
  else if name = "dollar" then .ok .dollar
  else .error (.variant name "`question` or `dollar`")

/-- A style is its name, or an object with that name and nothing under it. -/
def styleOfJson : Json → Except Fault PlaceholderStyle
  | .str name => styleOfName name
  | .obj [(name, payload)] => do
    let style ← styleOfName name
    match payload with
    | .null => return style
    | v => throw (.type v .unit)
  | .obj members => .error (.value (.obj members) .singleKey)
  | v => .error (.type v .choice)

def truthOfJson : Json → Except Fault Bool
  | .bool b => .ok b
  | v => .error (.type v .truth)

def readMember (s : Settings) (m : String × Json) : Except Fault Settings :=
  match m.1 with
  | "placeholder_style" => (styleOfJson m.2).map fun v => { s with placeholder := v }
  | "cache_metadata" => (truthOfJson m.2).map fun v => { s with cacheMetadata := v }
  | "log_queries" => (truthOfJson m.2).map fun v => { s with logQueries := v }
  | _ => .ok s

def names : List String := ["placeholder_style", "cache_metadata", "log_queries"]

/-- A list gives the settings in order and may leave out the last ones. -/
def ofJson : Json → Except Fault Settings
  | .obj members => members.foldlM readMember {}
  | .arr items => do
    let s ← (names.zip items).foldlM readMember {}
    if names.length < items.length then throw (.length items.length .fewerElements) else return s
  | v => .error (.type v (.record recordName))

def toJson (s : Settings) : Json :=
  .obj [("cache_metadata", .bool s.cacheMetadata), ("log_queries", .bool s.logQueries),
    ("placeholder_style", .str s.placeholder.name)]

end Settings

end SqlMapper

import SqlMapper.Record.Fault

/-!
What can go wrong, as causes, and the text of each.
-/

namespace SqlMapper

inductive BindingError where
  /-- A brace that is never closed, at a byte offset of the template. -/
  | unclosed (offset : Nat) (template : String)
  | unknownFlag (expression : String)
  | missing (identifier : String)
  /-- A value that is neither a scalar nor a list of scalars. -/
  | invalidValue (identifier : String) (found : JsonKind)
deriving DecidableEq, Repr

def BindingError.message : BindingError → String
  | .unclosed offset template =>
    "missing closing \"\x7d\" after character " ++ toString offset ++ " of \"" ++ template ++ "\""
  | .unknownFlag expression => "unable to process expression \"" ++ expression ++ "\""
  | .missing identifier => "\"" ++ identifier ++ "\" does not exist in given data"
  | .invalidValue identifier found =>
    "value for \"" ++ identifier ++ "\" must be a scalar or a list of scalars (" ++ found.name
      ++ " given)"

inductive DataFault where
  | badColumn (column : String)
  | noFields
  | keyNotScalar (key : String)
  | foreignKeyNotScalar (key : String)
  | notAnObject
  | other (reason : String)
deriving DecidableEq, Repr

def DataFault.reason : DataFault → String
  | .badColumn column => "column '" ++ column ++ "' is not a valid identifier"
  | .noFields => "no fields to update"
  | .keyNotScalar key => "primary key '" ++ key ++ "' is not a scalar"
  | .foreignKeyNotScalar key => "foreign key '" ++ key ++ "' is not a scalar"
  | .notAnObject => "model did not serialize to an object"
  | .other reason => reason

inductive ModelError where
  | invalidData (model : String) (fault : DataFault)
  | unknownModel (name : String)
  | missingPrimaryKey (model key : String)
  | reservedField (model field : String)
deriving DecidableEq, Repr

def ModelError.message : ModelError → String
  | .invalidData model fault =>
    "unable to determine persistence data for model " ++ model ++ ": " ++ fault.reason
  | .unknownModel name => "unknown model: " ++ name
  | .missingPrimaryKey model key =>
    "model " ++ model ++ " has no value for primary key '" ++ key ++ "'"
  | .reservedField model field =>
    "model " ++ model ++ " field '" ++ field ++ "' collides with a reserved template key"

structure SettingError where
  setting : String
  value : String
deriving DecidableEq, Repr

def SettingError.message (e : SettingError) : String :=
  "invalid value for " ++ e.setting ++ ": '" ++ e.value ++ "'"

inductive Side where
  | reader
  | writer
deriving DecidableEq, Repr

def Side.name : Side → String
  | .reader => "reader"
  | .writer => "writer"

inductive Error where
  | binding (cause : BindingError)
  | model (cause : ModelError)
  | setting (cause : SettingError)
  /-- Every middleware delegated and none produced a result. -/
  | chainExhausted
  | noDefault (side : Side)
  | driver (text : String)
  | hydration (cause : Record.Fault)

def Error.message : Error → String
  | .binding e => e.message
  | .model e => e.message
  | .setting e => e.message
  | .chainExhausted =>
    "the middleware stack was exhausted without a result; the query was not executed"
  | .noDefault side => "no default " ++ side.name ++ " connection has been set"
  | .driver text => "driver: " ++ text
  | .hydration cause => "hydration: " ++ cause.message

def liftBinding {α : Type} (r : Except BindingError α) : Except Error α := r.mapError .binding

def liftModel {α : Type} (r : Except ModelError α) : Except Error α := r.mapError .model

end SqlMapper

import SqlMapper.Binding
import SqlMapper.Conversion
import SqlMapper.Model.Basic

/-!
Generated statements. Each is a template bound to the data it needs: the table
and the columns of an insertion are spliced, and every value is a parameter. A
column stands in the template as an expression, so it has to be an identifier.
-/

namespace SqlMapper.Statement

def braced (expression : String) : String := "\x7b" ++ expression ++ "\x7d"

def tableEntry : String := "__table"

def fieldsEntry : String := "__fields"

def valuesEntry : String := "__values"

def table : String := braced ("*" ++ tableEntry)

def checkColumn (model column : String) : Except Error Unit :=
  if isIdentifier column then .ok ()
  else .error (.model (.invalidData model (.badColumn column)))

def tableData (info : Metadata) : Mapping := Fields.empty.insert tableEntry (toBindable info.tableName)

def column (model : String) (field : String × Json) : Except Error (String × Scalar) := do
  checkColumn model field.1
  return (field.1, ← liftBinding (scalarFor field.1 field.2))

def columns (model : String) (info : Metadata) (data : Fields Json) :
    Except Error (List (String × Scalar)) :=
  (data.others info.primaryKey).mapM (column model)

def insert (style : PlaceholderStyle) (model : String) (info : Metadata) (data : Fields Json) :
    Except Error Query := do
  let written ← columns model info data
  let mapping := ((tableData info).insert fieldsEntry (toBindable (written.map Prod.fst))).insert
    valuesEntry (toBindable (written.map Prod.snd))
  liftBinding (Binding.bind style
    ("insert into " ++ table ++ " (" ++ braced ("*" ++ fieldsEntry) ++ ") values ("
      ++ braced valuesEntry ++ ")") mapping)

def update (style : PlaceholderStyle) (model : String) (info : Metadata) (data : Fields Json)
    (id : Scalar) : Except Error Query := do
  checkColumn model info.primaryKey
  let written ← columns model info data
  if written.isEmpty then throw (.model (.invalidData model .noFields))
  let mapping := ((tableData info).insertAll (written.map fun c => (c.1, toBindable c.2))).insert
    info.primaryKey (toBindable id)
  let assignments := String.intercalate ", " (written.map fun c => braced ("=" ++ c.1))
  liftBinding (Binding.bind style
    ("update " ++ table ++ " set " ++ assignments ++ " where " ++ braced ("=" ++ info.primaryKey))
    mapping)

def limitClause (limit : Option Nat) : String := limit.elim "" fun n => " limit " ++ toString n

def whereColumn (style : PlaceholderStyle) (model : String) (info : Metadata) (head column : String)
    (value : Scalar) (limit : Option Nat) : Except Error Query := do
  checkColumn model column
  liftBinding (Binding.bind style
    (head ++ " where " ++ braced ("=" ++ column) ++ limitClause limit)
    ((tableData info).insert column (toBindable value)))

def selectHead : String := "select * from " ++ table

def delete (style : PlaceholderStyle) (model : String) (info : Metadata) (id : Scalar) :
    Except Error Query :=
  whereColumn style model info ("delete from " ++ table) info.primaryKey id none

def selectByKey (style : PlaceholderStyle) (model : String) (info : Metadata) (id : Scalar) :
    Except Error Query :=
  whereColumn style model info selectHead info.primaryKey id none

def selectByColumn (style : PlaceholderStyle) (model : String) (info : Metadata) (column : String)
    (value : Scalar) (limit : Option Nat) : Except Error Query :=
  whereColumn style model info selectHead column value limit

def selectAll (style : PlaceholderStyle) (info : Metadata) (limit : Option Nat) :
    Except Error Query :=
  liftBinding (Binding.bind style (selectHead ++ limitClause limit) (tableData info))

def selectWhere (style : PlaceholderStyle) (info : Metadata) (template : String) (data : Mapping) :
    Except Error Query := do
  let head ← liftBinding (Binding.bind style (selectHead ++ " where ") (tableData info))
  let condition ← liftBinding (Binding.bindFrom style head.params.length template data)
  return head ++ condition

end SqlMapper.Statement

import SqlMapper.Scalar

/-!
A finished statement: its text, and the parameters in the order of their
placeholders.
-/

namespace SqlMapper

structure Query where
  sql : String
  params : List Scalar
deriving DecidableEq, Inhabited

namespace Query

def empty : Query := ⟨"", []⟩

/-- A statement continued by another. With numbered placeholders the other one
has to be bound with `q.params.length` parameters standing before it. -/
def append (q other : Query) : Query := ⟨q.sql ++ other.sql, q.params ++ other.params⟩

instance : Append Query := ⟨append⟩

def pushSql (q : Query) (sql : String) : Query := { q with sql := q.sql ++ sql }

@[simp] theorem append_sql (q other : Query) : (q ++ other).sql = q.sql ++ other.sql := rfl

@[simp] theorem append_params (q other : Query) :
    (q ++ other).params = q.params ++ other.params := rfl

@[simp] theorem pushSql_sql (q : Query) (sql : String) : (q.pushSql sql).sql = q.sql ++ sql := rfl

@[simp] theorem pushSql_params (q : Query) (sql : String) : (q.pushSql sql).params = q.params := rfl

theorem append_assoc (a b c : Query) : a ++ b ++ c = a ++ (b ++ c) := by
  show Query.mk _ _ = Query.mk _ _
  congr 1
  · exact String.append_assoc
  · exact List.append_assoc ..

end Query

end SqlMapper

import SqlMapper.Connection.Middleware
import SqlMapper.Settings

/-!
Connections: a driver behind a chain of middlewares. The last stage of a
connection always runs the driver, so its chain is never exhausted.
-/

namespace SqlMapper

structure Connection (σ : Type) where
  driver : Driver σ
  entry : Stage σ

namespace Connection

variable {σ : Type}

def execute (c : Connection σ) (q : Query) : Exec σ Answer := c.entry c.driver q

def run (c : Connection σ) (sql : String) (params : List Scalar) : Exec σ Answer :=
  c.execute ⟨sql, params⟩

end Connection

def connect {σ : Type} (driver : Driver σ) (chain : List (Middleware σ)) : Connection σ :=
  ⟨driver, compose (chain ++ [executeQuery]) exhausted⟩

def connectWith {σ : Type} (settings : Settings) (driver : Driver σ)
    (chain : List (Middleware σ)) : Connection σ :=
  connect driver ((if settings.logQueries then [queryLogger false] else []) ++ chain)

end SqlMapper

import SqlMapper.Connection.Middleware

/-!
Ready-made middlewares, for tracing, changing and answering statements, and a
driver that replays prepared answers.
-/

namespace SqlMapper.Stock

variable {σ : Type}

def pass : Middleware σ := Flow.handOn

def adjust (change : Query → Query) : Middleware σ :=
  fun driver query => Flow.handOn driver (change query)

def trace (name : String) : Middleware σ := fun driver query => do
  Flow.writeLine (name ++ " pre")
  let a ← Flow.handOn driver query
  Flow.writeLine (name ++ (match a with | .ok _ => " post ok" | .error _ => " post err"))
  return a

def append (q : Query) : Middleware σ := adjust (· ++ q)

def replace (q : Query) : Middleware σ := adjust fun _ => q

def reverseParams : Middleware σ := adjust fun q => { q with params := q.params.reverse }

def answer (a : Answer) : Middleware σ := fun _ _ => return a

def twice : Middleware σ := fun driver query => do
  match ← Flow.handOn driver query with
  | .ok _ => Flow.handOn driver query
  | .error e => return .error e

def recover (a : Answer) : Middleware σ := fun driver query => do
  match ← Flow.handOn driver query with
  | .ok o => return .ok o
  | .error _ => return a

def count : Middleware σ := fun driver query => do
  let a ← Flow.handOn driver query
  return a.map fun o =>
    { o with rows := o.rows ++ [.obj [("count", .ofInt64 (Int64.ofNat o.rows.length))]] }

def echo : Stage σ := fun _ query =>
  return .ok (.withRows [.obj [("params", .arr (query.params.map Scalar.toJson)),
    ("sql", .str query.sql)]])

abbrev Script := List (String × Answer)

def Script.take (name : String) : Script → Option Answer × Script
  | [] => (none, [])
  | (n, a) :: rest =>
    if n = name then (some a, rest)
    else
      let (found, rest) := Script.take name rest
      (found, (n, a) :: rest)

/-- Gives the waiting answers in order, and an empty outcome when none is left. -/
def scripted (name : String) : Driver Script where
  name := name
  respond := fun _ script =>
    let (found, rest) := script.take name
    (found.getD (.ok .empty), rest)

end SqlMapper.Stock

import SqlMapper.Connection.Exec

/-!
Middlewares. A middleware decides what happens with a statement: it may write
lines, report events, look at and change the state, hand statements on to the
stage behind it as often as it likes, and run drivers itself. What it does is a
`Flow`, run with the stage behind it in place of every hand-over; a middleware
never sees what was noted. A chain is run from its first middleware, and its
terminal stage is reached when every middleware hands on.
-/

namespace SqlMapper

inductive Flow (σ α : Type) where
  | done (a : α)
  | line (text : String) (rest : Flow σ α)
  | emit (e : Event) (rest : Flow σ α)
  | get (rest : σ → Flow σ α)
  | set (s : σ) (rest : Flow σ α)
  /-- Hands a statement on to the stage behind. -/
  | next (driver : Driver σ) (query : Query) (rest : Answer → Flow σ α)
  /-- Runs a driver without the stage behind. -/
  | drive (driver : Driver σ) (query : Query) (rest : Answer → Flow σ α)

abbrev Stage (σ : Type) := Driver σ → Query → Exec σ Answer

abbrev Middleware (σ : Type) := Driver σ → Query → Flow σ Answer

namespace Flow

variable {σ α β : Type}

def bind : Flow σ α → (α → Flow σ β) → Flow σ β
  | .done a, f => f a
  | .line text rest, f => .line text (rest.bind f)
  | .emit e rest, f => .emit e (rest.bind f)
  | .get rest, f => .get fun s => (rest s).bind f
  | .set s rest, f => .set s (rest.bind f)
  | .next driver query rest, f => .next driver query fun a => (rest a).bind f
  | .drive driver query rest, f => .drive driver query fun a => (rest a).bind f

instance : Monad (Flow σ) where
  pure := .done
  bind := Flow.bind

def writeLine (text : String) : Flow σ Unit := .line text (.done ())

def report (e : Event) : Flow σ Unit := .emit e (.done ())

def handOn (driver : Driver σ) (query : Query) : Flow σ Answer := .next driver query .done

def runDriver (driver : Driver σ) (query : Query) : Flow σ Answer := .drive driver query .done

def run (behind : Stage σ) : Flow σ α → Exec σ α
  | .done a => pure a
  | .line text rest => do
    Exec.note (.line text)
    rest.run behind
  | .emit e rest => do
    Exec.note (.event e)
    rest.run behind
  | .get rest => do
    let s ← Exec.get
    (rest s).run behind
  | .set s rest => do
    Exec.set s
    rest.run behind
  | .next driver query rest => do
    let a ← behind driver query
    (rest a).run behind
  | .drive driver query rest => do
    let a ← driver.run query
    (rest a).run behind

end Flow

variable {σ : Type}

def Middleware.before (m : Middleware σ) (behind : Stage σ) : Stage σ :=
  fun driver query => (m driver query).run behind

def compose (chain : List (Middleware σ)) (terminal : Stage σ) : Stage σ :=
  chain.foldr Middleware.before terminal

@[simp] theorem compose_nil (terminal : Stage σ) : compose [] terminal = terminal := rfl

@[simp] theorem compose_cons (m : Middleware σ) (chain : List (Middleware σ))
    (terminal : Stage σ) : compose (m :: chain) terminal = m.before (compose chain terminal) := rfl

def exhausted : Stage σ := fun _ query => do
  Exec.note (.event (.exhausted query.sql))
  return .error .chainExhausted

def executeQuery : Middleware σ := Flow.runDriver

def Event.ofAnswer : Answer → Event
  | .ok o => .done o.rows.length o.success
  | .error e => .failed e

/-- Reports each statement before it is handed on, with its parameters or, if
they are redacted, only their number, and its answer afterwards. The time in between
is not measured. -/
def queryLogger (redact : Bool) : Middleware σ := fun driver query => do
  Flow.report (.query query.sql
    (if redact then .count query.params.length else .values query.params))
  let a ← Flow.handOn driver query
  Flow.report (.ofAnswer a)
  return a

end SqlMapper

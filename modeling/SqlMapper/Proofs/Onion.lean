import SqlMapper.Connection.Stock

/-!
Nested middlewares. A layer writes a line on the way in and one on the way out; in
between it hands a changed statement on, or it answers by itself. A chain of layers
runs inwards up to the first one that answers, or to the terminal stage, and then
outwards through the same layers in the opposite order. Nothing behind a layer that
answers is run.
-/

namespace SqlMapper

/-- A layer that hands on: it writes a line about the statement it is given, hands a
changed one on, writes a line about the answer it gets, and changes the answer. -/
structure Relay where
  inward : Query → String
  change : Query → Query
  outward : Answer → String
  finish : Answer → Answer

structure Stop where
  inward : Query → String
  respond : Query → Answer
  outward : Answer → String

inductive Layer where
  | relay (r : Relay)
  | stop (x : Stop)

variable {σ : Type}

namespace Relay

def middleware (r : Relay) : Middleware σ := fun driver query => do
  Flow.writeLine (r.inward query)
  let a ← Flow.handOn driver (r.change query)
  Flow.writeLine (r.outward a)
  return r.finish a

def received (relays : List Relay) (query : Query) (j : Nat) : Query :=
  (relays.take j).foldl (fun q r => r.change q) query

/-- The answer that leaves the layer at place `j` outwards, `a` coming from behind
them all. -/
def returned (relays : List Relay) (a : Answer) (j : Nat) : Answer :=
  (relays.drop j).foldr (fun r a => r.finish a) a

def linesIn (relays : List Relay) (query : Query) : List Note :=
  relays.mapIdx fun j r => .line (r.inward (received relays query j))

def linesOut (relays : List Relay) (a : Answer) : List Note :=
  (relays.mapIdx fun j r => Note.line (r.outward (returned relays a (j + 1)))).reverse

def around (relays : List Relay) (query : Query) (core : Ran σ Answer) : Ran σ Answer where
  value := returned relays core.value 0
  state := core.state
  notes := linesIn relays query ++ core.notes ++ linesOut relays core.value

theorem linesIn_cons (r : Relay) (relays : List Relay) (query : Query) :
    linesIn (r :: relays) query = .line (r.inward query) :: linesIn relays (r.change query) := by
  rw [linesIn, List.mapIdx_cons]
  rfl

theorem linesOut_cons (r : Relay) (relays : List Relay) (a : Answer) :
    linesOut (r :: relays) a =
      linesOut relays a ++ [.line (r.outward (returned relays a 0))] := by
  rw [linesOut, List.mapIdx_cons, List.reverse_cons]
  rfl

theorem before_run (r : Relay) (behind : Stage σ) (driver : Driver σ) (query : Query) (s : σ) :
    r.middleware.before behind driver query s =
      ⟨r.finish (behind driver (r.change query) s).value,
        (behind driver (r.change query) s).state,
        .line (r.inward query) :: ((behind driver (r.change query) s).notes ++
          [.line (r.outward (behind driver (r.change query) s).value)])⟩ := rfl

theorem around_cons (r : Relay) (relays : List Relay) (query : Query) (core : Ran σ Answer) :
    around (r :: relays) query core =
      ⟨r.finish (around relays (r.change query) core).value, core.state,
        .line (r.inward query) :: ((around relays (r.change query) core).notes ++
          [.line (r.outward (around relays (r.change query) core).value)])⟩ := by
  simp only [around, linesIn_cons, linesOut_cons, List.cons_append, List.append_assoc]
  rfl

/-- Layers that all hand on are run once each, around one run of what is behind. -/
theorem compose_run (relays : List Relay) (inner : Stage σ) (driver : Driver σ) (query : Query)
    (s : σ) :
    compose (relays.map middleware) inner driver query s =
      around relays query (inner driver (received relays query relays.length) s) := by
  induction relays generalizing query with
  | nil =>
    have notes := List.append_nil (inner driver query s).notes
    show inner driver query s = ⟨_, _, (inner driver query s).notes ++ []⟩
    rw [notes]
    rfl
  | cons r relays ih =>
    have reached : received (r :: relays) query (r :: relays).length =
        received relays (r.change query) relays.length := rfl
    rw [List.map_cons, compose_cons, before_run, ih, reached, around_cons]
    rfl

end Relay

namespace Stop

def middleware (x : Stop) : Middleware σ := fun _ query => do
  Flow.writeLine (x.inward query)
  Flow.writeLine (x.outward (x.respond query))
  return x.respond query

def run (x : Stop) (query : Query) (s : σ) : Ran σ Answer where
  value := x.respond query
  state := s
  notes := [.line (x.inward query), .line (x.outward (x.respond query))]

theorem before_run (x : Stop) (behind : Stage σ) (driver : Driver σ) (query : Query) (s : σ) :
    x.middleware.before behind driver query s = x.run query s := rfl

end Stop

namespace Layer

def middleware : Layer → Middleware σ
  | relay r => r.middleware
  | stop x => x.middleware

theorem map_middleware_relay (relays : List Relay) :
    (relays.map Layer.relay).map middleware = relays.map (Relay.middleware (σ := σ)) := by
  rw [List.map_map]
  rfl

theorem split (layers : List Layer) :
    (∃ relays : List Relay, layers = relays.map .relay) ∨
      ∃ (relays : List Relay) (x : Stop) (rest : List Layer),
        layers = relays.map .relay ++ .stop x :: rest := by
  induction layers with
  | nil => exact .inl ⟨[], rfl⟩
  | cons layer layers ih =>
    cases layer with
    | stop x => exact .inr ⟨[], x, layers, rfl⟩
    | relay r =>
      obtain ⟨relays, rfl⟩ | ⟨relays, x, rest, rfl⟩ := ih
      · exact .inl ⟨r :: relays, rfl⟩
      · exact .inr ⟨r :: relays, x, rest, rfl⟩

end Layer

theorem compose_append (a b : List (Middleware σ)) (terminal : Stage σ) :
    compose (a ++ b) terminal = compose a (compose b terminal) := List.foldr_append

/-- A chain of layers runs the layers up to the first one that answers, or all of them
and the terminal stage, each around the next. Chains put together run one inside the
other, whatever their middlewares do. -/
theorem compose_onion (layers : List Layer) (terminal : Stage σ) (driver : Driver σ)
    (query : Query) (s : σ) :
    ((∃ relays : List Relay, layers = relays.map .relay ∧
        compose (layers.map Layer.middleware) terminal driver query s =
          Relay.around relays query
            (terminal driver (Relay.received relays query relays.length) s)) ∨
      ∃ (relays : List Relay) (x : Stop) (rest : List Layer),
        layers = relays.map .relay ++ .stop x :: rest ∧
        compose (layers.map Layer.middleware) terminal driver query s =
          Relay.around relays query (x.run (Relay.received relays query relays.length) s)) ∧
    ∀ (a b : List (Middleware σ)) (t : Stage σ), compose (a ++ b) t = compose a (compose b t) := by
  refine ⟨?_, compose_append⟩
  obtain ⟨relays, rfl⟩ | ⟨relays, x, rest, rfl⟩ := Layer.split layers
  · refine .inl ⟨relays, rfl, ?_⟩
    rw [Layer.map_middleware_relay, Relay.compose_run]
  · refine .inr ⟨relays, x, rest, rfl, ?_⟩
    -- what stands behind the layer that answers is never asked
    have answered := x.before_run (compose (rest.map Layer.middleware) terminal) driver
      (Relay.received relays query relays.length) s
    rw [List.map_append, Layer.map_middleware_relay, compose_append, Relay.compose_run]
    exact congrArg (Relay.around relays query) answered

example (driver : Driver σ) (s : σ) :
    let terminal : Stage σ := fun _ _ => do
      Exec.note (.line "terminal")
      return .ok .empty
    (compose [Stock.trace "m1", Stock.trace "m2"] terminal driver ⟨"select 1", []⟩ s).notes =
      ["m1 pre", "m2 pre", "terminal", "m2 post ok", "m1 post ok"].map Note.line := by
  rfl

end SqlMapper

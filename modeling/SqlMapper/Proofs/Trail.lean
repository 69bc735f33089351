import SqlMapper.Proofs.Onion

/-!
What the middlewares of a chain do in front of a stage, move by move: the notes that
are their own, and their arrivals at the stage, each with what is handed over and the
state it is left in. The notes of a run are those moves, with every arrival written
out as one run of the stage (`notes_compose`).
-/

namespace SqlMapper

variable {σ α : Type}

inductive Move (σ : Type) where
  | own (n : Note)
  | arrival (driver : Driver σ) (query : Query) (state : σ)

def Move.notes (last : Stage σ) : Move σ → List Note
  | own n => [n]
  | arrival driver query s => (last driver query s).notes

def Flow.moves (behind : Stage σ) (inner : Driver σ → Query → σ → List (Move σ)) :
    Flow σ α → σ → List (Move σ)
  | .done _, _ => []
  | .line text rest, s => .own (.line text) :: rest.moves behind inner s
  | .emit e rest, s => .own (.event e) :: rest.moves behind inner s
  | .get rest, s => (rest s).moves behind inner s
  | .set s rest, _ => rest.moves behind inner s
  | .next driver query rest, s =>
    let r := behind driver query s
    inner driver query s ++ (rest r.value).moves behind inner r.state
  | .drive driver query rest, s =>
    let r := driver.run query s
    .own (.statement driver.name query) :: (rest r.value).moves behind inner r.state

def moves (last : Stage σ) : List (Middleware σ) → Driver σ → Query → σ → List (Move σ)
  | [], driver, query, s => [.arrival driver query s]
  | m :: chain, driver, query, s => (m driver query).moves (compose chain last) (moves last chain) s

namespace Flow

/-- The notes of what a middleware does are its moves, if that holds behind it. -/
theorem notes_run {last behind : Stage σ} {inner : Driver σ → Query → σ → List (Move σ)}
    (h : ∀ driver query s,
      (behind driver query s).notes = (inner driver query s).flatMap (Move.notes last))
    (flow : Flow σ α) (s : σ) :
    (flow.run behind s).notes = (flow.moves behind inner s).flatMap (Move.notes last) := by
  induction flow generalizing s with
  | done a => rfl
  | line text rest ih => exact congrArg (Note.line text :: ·) (ih s)
  | emit e rest ih => exact congrArg (Note.event e :: ·) (ih s)
  | get rest ih => exact ih s s
  | set s' rest ih => exact ih s'
  | next driver query rest ih =>
    rw [moves, List.flatMap_append, ← h, ← ih]
    rfl
  | drive driver query rest ih =>
    have answered := ih (driver.run query s).value (driver.run query s).state
    exact congrArg (Note.statement driver.name query :: ·) answered

theorem forall_moves {P : Move σ → Prop} (own : ∀ n, P (.own n)) {behind : Stage σ}
    {inner : Driver σ → Query → σ → List (Move σ)}
    (h : ∀ driver query s, ∀ m ∈ inner driver query s, P m) (flow : Flow σ α) (s : σ) :
    ∀ m ∈ flow.moves behind inner s, P m := by
  induction flow generalizing s with
  | done a => simp [moves]
  | line text rest ih => exact List.forall_mem_cons.2 ⟨own _, ih s⟩
  | emit e rest ih => exact List.forall_mem_cons.2 ⟨own _, ih s⟩
  | get rest ih => exact ih s s
  | set s' rest ih => exact ih s'
  | next driver query rest ih =>
    exact List.forall_mem_append.2 ⟨h driver query s, ih _ _⟩
  | drive driver query rest ih => exact List.forall_mem_cons.2 ⟨own _, ih _ _⟩

end Flow

theorem notes_compose (chain : List (Middleware σ)) (last : Stage σ) (driver : Driver σ)
    (query : Query) (s : σ) :
    (compose chain last driver query s).notes =
      (moves last chain driver query s).flatMap (Move.notes last) := by
  induction chain generalizing driver query s with
  | nil => exact (List.append_nil _).symm
  | cons m chain ih => exact Flow.notes_run ih (m driver query) s

end SqlMapper

import SqlMapper.Proofs.Trail

/-!
What happens at the places of a chain. The middlewares stand at the places 0, 1, ...
from the outside, the terminal stage stands behind them all. A run crosses into a
place with what is handed over to it, and out of it with the answer it gives back and
the state it leaves; in between stand the notes made at the place and the crossings of
the places behind it. The notes of a run are those of its crossings (`notes_crossings`).
-/

namespace SqlMapper

variable {σ α : Type}

inductive Passage (σ : Type) where
  | inward (driver : Driver σ) (query : Query) (state : σ)
  | own (n : Note)
  | outward (answer : Answer) (state : σ)

structure Crossing (σ : Type) where
  place : Nat
  passage : Passage σ

namespace Crossing

def deeper (c : Crossing σ) : Crossing σ := ⟨c.place + 1, c.passage⟩

def behind (n : Nat) (c : Crossing σ) : Crossing σ := ⟨c.place + n, c.passage⟩

def note? (c : Crossing σ) : Option Note :=
  match c.passage with
  | .own n => some n
  | _ => none

/-- Inside the outermost place only notes are made there. -/
def Inner (c : Crossing σ) : Prop := c.place = 0 → ∃ n, c.passage = .own n

theorem inner_deeper (c : Crossing σ) : c.deeper.Inner := nofun

end Crossing

def visit (driver : Driver σ) (query : Query) (s : σ) (inside : List (Crossing σ))
    (r : Ran σ Answer) : List (Crossing σ) :=
  ⟨0, .inward driver query s⟩ :: (inside ++ [⟨0, .outward r.value r.state⟩])

def Move.crossings (behind : Driver σ → Query → σ → List (Crossing σ)) :
    Move σ → List (Crossing σ)
  | own n => [⟨0, .own n⟩]
  | arrival driver query s => (behind driver query s).map .deeper

def Flow.handOvers (behind : Stage σ) (flow : Flow σ α) (s : σ) : List (Move σ) :=
  flow.moves behind (fun driver query s => [.arrival driver query s]) s

def crossings (terminal : Stage σ) :
    List (Middleware σ) → Driver σ → Query → σ → List (Crossing σ)
  | [], driver, query, s =>
    visit driver query s ((terminal driver query s).notes.map fun n => ⟨0, .own n⟩)
      (terminal driver query s)
  | m :: chain, driver, query, s =>
    visit driver query s
      (((m driver query).handOvers (compose chain terminal) s).flatMap
        (Move.crossings (crossings terminal chain)))
      (compose (m :: chain) terminal driver query s)

theorem Flow.notes_handOvers (behind : Stage σ) (flow : Flow σ α) (s : σ) :
    (flow.run behind s).notes = (flow.handOvers behind s).flatMap (Move.notes behind) :=
  Flow.notes_run (fun _ _ _ => (List.append_nil _).symm) flow s

theorem notes_visit (driver : Driver σ) (query : Query) (s : σ) (inside : List (Crossing σ))
    (r : Ran σ Answer) :
    (visit driver query s inside r).filterMap Crossing.note? = inside.filterMap Crossing.note? := by
  rw [visit, List.filterMap_cons, List.filterMap_append]
  exact List.append_nil _

theorem Move.notes_crossings {behind : Stage σ} {inner : Driver σ → Query → σ → List (Crossing σ)}
    (h : ∀ driver query s,
      (inner driver query s).filterMap Crossing.note? = (behind driver query s).notes)
    (m : Move σ) : (m.crossings inner).filterMap Crossing.note? = m.notes behind := by
  cases m with
  | own n => rfl
  | arrival driver query s =>
    rw [crossings, List.filterMap_map, Move.notes, ← h]
    rfl

theorem notes_crossings (terminal : Stage σ) (chain : List (Middleware σ)) (driver : Driver σ)
    (query : Query) (s : σ) :
    (crossings terminal chain driver query s).filterMap Crossing.note? =
      (compose chain terminal driver query s).notes := by
  induction chain generalizing driver query s with
  | nil =>
    rw [crossings, notes_visit, List.filterMap_map]
    exact List.filterMap_some
  | cons m chain ih =>
    have each : (fun mv : Move σ => (mv.crossings (crossings terminal chain)).filterMap
        Crossing.note?) = Move.notes (compose chain terminal) := by
      funext mv
      exact Move.notes_crossings ih mv
    have run := Flow.notes_handOvers (compose chain terminal) (m driver query) s
    rw [crossings, notes_visit, List.filterMap_flatMap, each, ← run]
    rfl

theorem crossings_eq_visit (terminal : Stage σ) (chain : List (Middleware σ)) (driver : Driver σ)
    (query : Query) (s : σ) :
    ∃ inside, crossings terminal chain driver query s =
        visit driver query s inside (compose chain terminal driver query s) ∧
      ∀ c ∈ inside, c.Inner := by
  cases chain with
  | nil =>
    refine ⟨_, rfl, fun c hc _ => ?_⟩
    obtain ⟨n, -, rfl⟩ := List.mem_map.1 hc
    exact ⟨n, rfl⟩
  | cons m chain =>
    refine ⟨_, rfl, fun c hc => ?_⟩
    obtain ⟨mv, -, hc⟩ := List.mem_flatMap.1 hc
    cases mv with
    | own n =>
      cases List.mem_singleton.1 hc
      exact fun _ => ⟨n, rfl⟩
    | arrival driver' query' s' =>
      obtain ⟨c', -, rfl⟩ := List.mem_map.1 hc
      exact c'.inner_deeper

theorem exists_of_flatMap_eq_append {α β : Type} {f : α → List β} {l : List α} {before : List β}
    {x : β} {after : List β} (h : l.flatMap f = before ++ x :: after) :
    ∃ a u v rest, f a = u ++ x :: v ∧ after = v ++ rest := by
  induction l generalizing before with
  | nil => simp at h
  | cons a l ih =>
    rw [List.flatMap_cons, List.append_eq_append_iff] at h
    rcases h with h | h
    · obtain ⟨between, -, h⟩ := h
      exact ih h
    · obtain ⟨v, here, h⟩ := h
      cases v with
      | nil =>
        have later : l.flatMap f = [] ++ x :: after := h.symm
        exact ih later
      | cons y v =>
        rw [List.cons_append, List.cons.injEq] at h
        obtain ⟨rfl, h⟩ := h
        exact ⟨a, before, v, l.flatMap f, here, h⟩

theorem inside_of_append {inside before : List (Crossing σ)} {place : Nat} {d : Driver σ}
    {q : Query} {t : σ} {after : List (Crossing σ)} {answer : Answer} {s : σ}
    (h : inside ++ [⟨0, .outward answer s⟩] = before ++ ⟨place, .inward d q t⟩ :: after) :
    ∃ v, inside = before ++ ⟨place, .inward d q t⟩ :: v ∧ after = v ++ [⟨0, .outward answer s⟩] := by
  rcases List.eq_nil_or_concat after with rfl | ⟨v, last, rfl⟩
  · have ends := (List.append_inj' h rfl).2
    cases ends
  · rw [List.concat_eq_append, ← List.cons_append, ← List.append_assoc] at h
    obtain ⟨init, ends⟩ := List.append_inj' h rfl
    exact ⟨v, init, by rw [List.concat_eq_append, ends]⟩

/-- Wherever a run crosses into a place, a whole run of the chain from there follows. -/
theorem crossings_from_inward {terminal : Stage σ} {a b : List (Middleware σ)} {driver : Driver σ}
    {query : Query} {s : σ} {before after : List (Crossing σ)} {d : Driver σ} {q : Query} {t : σ}
    (h : crossings terminal (a ++ b) driver query s = before ++ ⟨a.length, .inward d q t⟩ :: after) :
    ∃ rest, ⟨a.length, .inward d q t⟩ :: after =
      (crossings terminal b d q t).map (Crossing.behind a.length) ++ rest := by
  induction a generalizing driver query s before after with
  | nil =>
    obtain ⟨inside, run, inner⟩ := crossings_eq_visit terminal b driver query s
    rw [List.nil_append, run, visit] at h
    cases before with
    | nil =>
      cases h
      have same : (crossings terminal b d q t).map (Crossing.behind 0) =
          crossings terminal b d q t := List.map_id _
      exact ⟨[], by rw [List.append_nil, List.length_nil, same, run, visit]⟩
    | cons first before =>
      -- the outermost place is entered once, at the beginning
      rw [List.cons_append, List.cons.injEq] at h
      obtain ⟨v, rfl, -⟩ := inside_of_append h.2
      obtain ⟨n, own⟩ := inner _ (List.mem_append_right before (List.mem_cons_self ..)) rfl
      cases own
  | cons m a ih =>
    rw [List.cons_append, crossings, visit] at h
    cases before with
    | nil => cases h
    | cons first before =>
      rw [List.cons_append, List.cons.injEq] at h
      obtain ⟨v, hv, rfl⟩ := inside_of_append h.2
      obtain ⟨mv, u, w, rest, move, rfl⟩ := exists_of_flatMap_eq_append hv
      cases mv with
      | own n =>
        have only : ⟨a.length + 1, .inward d q t⟩ ∈ [(⟨0, .own n⟩ : Crossing σ)] := by
          rw [show [(⟨0, .own n⟩ : Crossing σ)] = _ from move]
          exact List.mem_append_right u (List.mem_cons_self ..)
        cases List.mem_singleton.1 only
      | arrival driver' query' s' =>
        obtain ⟨u', here, run, -, later⟩ := List.map_eq_append_iff.1 move
        obtain ⟨⟨at_, passage⟩, here, rfl, entry, rfl⟩ := List.map_eq_cons_iff.1 later
        cases entry
        obtain ⟨after', whole⟩ := ih run
        have deeper := congrArg (List.map Crossing.deeper) whole
        rw [List.map_cons, List.map_append, List.map_map] at deeper
        rw [List.append_assoc, ← List.cons_append]
        exact ⟨_, (congrArg (· ++ _) deeper).trans (List.append_assoc ..)⟩

end SqlMapper

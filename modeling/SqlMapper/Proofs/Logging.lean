import Mathlib.Data.List.Basic
import SqlMapper.Connection.Basic
import SqlMapper.Connection.Report
import SqlMapper.Proofs.Crossing

/-!
The query logger as an onlooker. With a logger at some place of a chain a run has the
same answer, leaves the same state and calls the same drivers as without it, and every
other place is entered, left and heard in the same way: the crossings of the run are
those of the run without it, where each way into the place of the logger passes its
first event and each way out of it passes its second one.
-/

namespace SqlMapper

variable {σ α : Type}

def Stage.Agree (x y : Stage σ) : Prop :=
  ∀ driver query s, (x driver query s).value = (y driver query s).value ∧
    (x driver query s).state = (y driver query s).state

namespace Flow

variable {x y : Stage σ}

theorem agree_run (h : Stage.Agree x y) (flow : Flow σ α) (s : σ) :
    (flow.run x s).value = (flow.run y s).value ∧ (flow.run x s).state = (flow.run y s).state := by
  induction flow generalizing s with
  | done a => exact ⟨rfl, rfl⟩
  | line text rest ih => exact ih s
  | emit e rest ih => exact ih s
  | get rest ih => exact ih s s
  | set s' rest ih => exact ih s'
  | next driver query rest ih =>
    obtain ⟨value, state⟩ := h driver query s
    have later := ih (y driver query s).value (y driver query s).state
    rw [← value, ← state] at later
    simp only [run, Exec.bind_run]
    rw [← value, ← state]
    exact later
  | drive driver query rest ih => exact ih _ _

theorem handOvers_agree (h : Stage.Agree x y) (flow : Flow σ α) (s : σ) :
    flow.handOvers x s = flow.handOvers y s := by
  simp only [handOvers]
  induction flow generalizing s with
  | done a => rfl
  | line text rest ih => rw [moves, moves, ih]
  | emit e rest ih => rw [moves, moves, ih]
  | get rest ih => exact ih s s
  | set s' rest ih => exact ih s'
  | next driver query rest ih =>
    obtain ⟨value, state⟩ := h driver query s
    simp only [moves]
    rw [value, state, ih]
  | drive driver query rest ih => rw [moves, moves, ih]

end Flow

theorem compose_agree {x y : Stage σ} (h : Stage.Agree x y) (chain : List (Middleware σ)) :
    Stage.Agree (compose chain x) (compose chain y) := by
  induction chain with
  | nil => exact h
  | cons m chain ih => exact fun driver query s => Flow.agree_run ih (m driver query) s

def Ran.SameButReports (r r' : Ran σ α) : Prop :=
  r.value = r'.value ∧ r.state = r'.state ∧
    r.notes.filter (fun n => !n.isEvent) = r'.notes.filter fun n => !n.isEvent

def Event.asked (redact : Bool) (query : Query) : Event :=
  .query query.sql (if redact then .count query.params.length else .values query.params)

theorem before_queryLogger (redact : Bool) (behind : Stage σ) (driver : Driver σ) (query : Query)
    (s : σ) :
    (queryLogger redact).before behind driver query s =
      ⟨(behind driver query s).value, (behind driver query s).state,
        .event (.asked redact query) :: ((behind driver query s).notes ++
          [.event (.ofAnswer (behind driver query s).value)])⟩ := rfl

theorem compose_queryLogger_agree (a b : List (Middleware σ)) (redact : Bool) (terminal : Stage σ) :
    Stage.Agree (compose (a ++ queryLogger redact :: b) terminal) (compose (a ++ b) terminal) := by
  rw [compose_append, compose_append]
  refine compose_agree (fun driver query s => ?_) a
  rw [compose_cons, before_queryLogger]
  exact ⟨rfl, rfl⟩

namespace Crossing

/-- A crossing of a run, as it is with a logger put in at a place: the places from there
on move inwards, and the logger tells of what goes in and what comes out. -/
def logged (redact : Bool) (place : Nat) (c : Crossing σ) : List (Crossing σ) :=
  if c.place < place then [c]
  else if place < c.place then [c.deeper]
  else
    match c.passage with
    | .inward _ query _ => [c, ⟨place, .own (.event (.asked redact query))⟩, c.deeper]
    | .own _ => [c.deeper]
    | .outward answer _ => [c.deeper, ⟨place, .own (.event (.ofAnswer answer))⟩, c]

def without (place : Nat) (c : Crossing σ) : Option (Crossing σ) :=
  if c.place < place then some c
  else if place < c.place then some ⟨c.place - 1, c.passage⟩
  else none

def unreported? (c : Crossing σ) : Option Note := c.note?.filter fun n => !n.isEvent

variable {redact : Bool} {place : Nat}

theorem logged_of_lt {c : Crossing σ} (h : c.place < place) : c.logged redact place = [c] := if_pos h

theorem logged_of_gt {c : Crossing σ} (h : place < c.place) :
    c.logged redact place = [c.deeper] := by
  rw [logged, if_neg (Nat.lt_asymm h), if_pos h]

theorem logged_deeper (redact : Bool) (place : Nat) (c : Crossing σ) :
    c.deeper.logged redact (place + 1) = (c.logged redact place).map deeper := by
  rcases Nat.lt_trichotomy c.place place with h | rfl | h
  · rw [logged_of_lt h, logged_of_lt (Nat.succ_lt_succ h)]
    rfl
  · obtain ⟨at_, passage⟩ := c
    cases passage <;> simp [logged, deeper]
  · rw [logged_of_gt h, logged_of_gt (Nat.succ_lt_succ h)]
    rfl

theorem logged_inner {c : Crossing σ} (h : c.Inner) (redact : Bool) :
    c.logged redact 0 = [c.deeper] := by
  obtain ⟨at_, passage⟩ := c
  cases at_ with
  | zero =>
    obtain ⟨n, rfl⟩ := h rfl
    rfl
  | succ k => rfl

theorem without_deeper {c : Crossing σ} (h : place ≤ c.place) : c.deeper.without place = some c := by
  have behind : place < c.deeper.place := Nat.lt_succ_of_le h
  rw [without, if_neg (Nat.lt_asymm behind), if_pos behind]
  rfl

/-- What is put in at a place is what is taken out there. -/
theorem without_logged (redact : Bool) (place : Nat) (c : Crossing σ) :
    (c.logged redact place).filterMap (without place) = [c] := by
  rcases Nat.lt_trichotomy c.place place with h | rfl | h
  · rw [logged_of_lt h]
    simp [without, h]
  · have deep := without_deeper (Nat.le_refl c.place)
    obtain ⟨at_, passage⟩ := c
    cases passage <;> simp [logged, List.filterMap_cons, deep] <;> simp [without]
  · rw [logged_of_gt h, List.filterMap_cons, without_deeper (Nat.le_of_lt h)]
    rfl

theorem unreported_logged (redact : Bool) (place : Nat) (c : Crossing σ) :
    (c.logged redact place).filterMap unreported? = [c].filterMap unreported? := by
  rcases Nat.lt_trichotomy c.place place with h | rfl | h
  · rw [logged_of_lt h]
  · obtain ⟨at_, passage⟩ := c
    cases passage <;> simp [logged] <;> rfl
  · rw [logged_of_gt h]
    rfl

end Crossing

section Inserted

theorem visit_congr {driver : Driver σ} {query : Query} {s : σ} {inside : List (Crossing σ)}
    {r r' : Ran σ Answer} (value : r.value = r'.value) (state : r.state = r'.state) :
    visit driver query s inside r = visit driver query s inside r' := by
  rw [visit, visit, value, state]

variable (redact : Bool)

theorem logged_visit (place : Nat) (driver : Driver σ) (query : Query) (s : σ)
    (inside : List (Crossing σ)) (r : Ran σ Answer) :
    (visit driver query s inside r).flatMap (Crossing.logged redact (place + 1)) =
      visit driver query s (inside.flatMap (Crossing.logged redact (place + 1))) r := by
  rw [visit, List.flatMap_cons, List.flatMap_append]
  rfl

variable (terminal : Stage σ)

theorem visit_queryLogger (chain : List (Middleware σ)) (driver : Driver σ) (query : Query) (s : σ) :
    crossings terminal (queryLogger redact :: chain) driver query s =
      visit driver query s
        (⟨0, .own (.event (.asked redact query))⟩ ::
          ((crossings terminal chain driver query s).map Crossing.deeper ++
            [⟨0, .own (.event (.ofAnswer (compose chain terminal driver query s).value))⟩]))
        (compose chain terminal driver query s) := rfl

theorem crossings_queryLogger (chain : List (Middleware σ)) (driver : Driver σ) (query : Query)
    (s : σ) :
    crossings terminal (queryLogger redact :: chain) driver query s =
      (crossings terminal chain driver query s).flatMap (Crossing.logged redact 0) := by
  obtain ⟨inside, run, inner⟩ := crossings_eq_visit terminal chain driver query s
  have deeper : inside.flatMap (Crossing.logged redact 0) = inside.map Crossing.deeper := by
    rw [List.map_eq_flatMap]
    exact List.flatMap_congr fun c hc => Crossing.logged_inner (inner c hc) redact
  rw [visit_queryLogger, run, visit, visit, List.flatMap_cons, List.flatMap_append, deeper]
  simp [Crossing.logged, Crossing.deeper]

theorem crossings_insert (a b : List (Middleware σ)) (driver : Driver σ) (query : Query) (s : σ) :
    crossings terminal (a ++ queryLogger redact :: b) driver query s =
      (crossings terminal (a ++ b) driver query s).flatMap (Crossing.logged redact a.length) := by
  induction a generalizing driver query s with
  | nil => exact crossings_queryLogger redact terminal b driver query s
  | cons m a ih =>
    have agree := compose_queryLogger_agree a b redact terminal
    have moved := Flow.handOvers_agree agree (m driver query) s
    have run := Flow.agree_run agree (m driver query) s
    have inside : Move.crossings (crossings terminal (a ++ queryLogger redact :: b)) =
        fun mv => (mv.crossings (crossings terminal (a ++ b))).flatMap
          (Crossing.logged redact (a.length + 1)) := by
      funext mv
      cases mv with
      | own n => rfl
      | arrival driver' query' s' =>
        simp only [Move.crossings]
        rw [ih, List.flatMap_map, List.map_flatMap]
        simp only [Crossing.logged_deeper]
    rw [List.cons_append, List.cons_append, crossings, crossings, List.length_cons, logged_visit,
      List.flatMap_assoc, moved, inside]
    exact visit_congr run.1 run.2

theorem sameButReports_insert (a b : List (Middleware σ)) (driver : Driver σ) (query : Query)
    (s : σ) :
    (compose (a ++ queryLogger redact :: b) terminal driver query s).SameButReports
      (compose (a ++ b) terminal driver query s) := by
  have agree := compose_queryLogger_agree a b redact terminal driver query s
  refine ⟨agree.1, agree.2, ?_⟩
  rw [← notes_crossings, ← notes_crossings, List.filter_filterMap, List.filter_filterMap,
    crossings_insert, List.filterMap_flatMap]
  have each : (fun c : Crossing σ =>
      (c.logged redact a.length).filterMap Crossing.unreported?) =
        fun c => [c].filterMap Crossing.unreported? := by
    funext c
    exact Crossing.unreported_logged redact a.length c
  have quiet := congrArg (List.flatMap · (crossings terminal (a ++ b) driver query s)) each
  refine quiet.trans ?_
  rw [← List.filterMap_flatMap, List.flatMap_singleton']
  rfl

theorem without_insert (a b : List (Middleware σ)) (driver : Driver σ) (query : Query) (s : σ) :
    (crossings terminal (a ++ queryLogger redact :: b) driver query s).filterMap
        (Crossing.without a.length) = crossings terminal (a ++ b) driver query s := by
  rw [crossings_insert, List.filterMap_flatMap]
  simp only [Crossing.without_logged, List.flatMap_singleton']

theorem crossings_from_queryLogger {a b : List (Middleware σ)} {driver : Driver σ} {query : Query}
    {s : σ} {before after : List (Crossing σ)} {d : Driver σ} {q : Query} {t : σ}
    (h : crossings terminal (a ++ queryLogger redact :: b) driver query s =
      before ++ ⟨a.length, .inward d q t⟩ :: after) :
    ∃ rest, after = ⟨a.length, .own (.event (.asked redact q))⟩ ::
      ((crossings terminal b d q t).map (Crossing.behind (a.length + 1)) ++
        ⟨a.length, .own (.event (.ofAnswer (compose b terminal d q t).value))⟩ ::
        ⟨a.length, .outward (compose b terminal d q t).value (compose b terminal d q t).state⟩ ::
        rest) := by
  obtain ⟨rest, whole⟩ := crossings_from_inward h
  have further : Crossing.behind a.length ∘ Crossing.deeper =
      (Crossing.behind (a.length + 1) : Crossing σ → Crossing σ) := by
    funext c
    show (⟨_, _⟩ : Crossing σ) = ⟨_, _⟩
    rw [Crossing.deeper, Nat.add_right_comm, Nat.add_assoc]
  rw [visit_queryLogger, visit] at whole
  simp only [List.map_cons, List.map_append, List.map_map, List.map_nil, further] at whole
  refine ⟨rest, (List.cons.inj whole).2.trans ?_⟩
  simp [Crossing.behind]

end Inserted

theorem fields_ofAnswer (answer : Answer) :
    (Event.ofAnswer answer).fields =
      match answer with
      | .ok o => [("message", .text "query done"), ("rows", .count o.rows.length),
        ("success", .truth o.success)]
      | .error e => [("message", .text "query failed"), ("error", .text e.message)] := by
  cases answer <;> rfl

theorem connectWith_logQueries (settings : Settings) (driver : Driver σ)
    (chain : List (Middleware σ)) (sql : String) (params : List Scalar) (s : σ) :
    let plain := (connectWith { settings with logQueries := false } driver chain).run sql params s
    (connectWith { settings with logQueries := true } driver chain).run sql params s =
      ⟨plain.value, plain.state, .event (.asked false ⟨sql, params⟩) ::
        (plain.notes ++ [.event (.ofAnswer plain.value)])⟩ := rfl

/-- A logger at any place of a chain, or of a connection. The run has the answer, the
final state and the notes, events apart, of the run without it. Its crossings are those
of the run without it, with the logger's own on each way in and each way out, so that
leaving those of its place away gives the others back. Each time the logger is entered it
first asks, then the whole run behind it follows, then it tells what came back: of an
outcome the number of its rows and whether it succeeded, of an error its text. If
parameters are redacted, it asks with their number alone. A connection that logs by its
settings differs from one that does not in these two events. -/
theorem queryLogger_transparent (a b : List (Middleware σ)) (redact : Bool) (terminal : Stage σ)
    (driver : Driver σ) (query : Query) (s : σ) :
    (compose (a ++ queryLogger redact :: b) terminal driver query s).SameButReports
      (compose (a ++ b) terminal driver query s) ∧
    ((connect driver (a ++ queryLogger redact :: b)).execute query s).SameButReports
      ((connect driver (a ++ b)).execute query s) ∧
    (let plain := crossings terminal (a ++ b) driver query s
      let logged := crossings terminal (a ++ queryLogger redact :: b) driver query s
      logged = plain.flatMap (Crossing.logged redact a.length) ∧
        logged.filterMap (Crossing.without a.length) = plain ∧
        logged.filterMap Crossing.note? =
          (compose (a ++ queryLogger redact :: b) terminal driver query s).notes ∧
        plain.filterMap Crossing.note? = (compose (a ++ b) terminal driver query s).notes) ∧
    (∀ before after d q t,
      crossings terminal (a ++ queryLogger redact :: b) driver query s =
          before ++ ⟨a.length, .inward d q t⟩ :: after →
        ∃ rest, after = ⟨a.length, .own (.event (.asked redact q))⟩ ::
          ((crossings terminal b d q t).map (Crossing.behind (a.length + 1)) ++
            ⟨a.length, .own (.event (.ofAnswer (compose b terminal d q t).value))⟩ ::
            ⟨a.length, .outward (compose b terminal d q t).value
              (compose b terminal d q t).state⟩ :: rest)) ∧
    (∀ answer : Answer, (Event.ofAnswer answer).fields =
      match answer with
      | .ok o => [("message", .text "query done"), ("rows", .count o.rows.length),
        ("success", .truth o.success)]
      | .error e => [("message", .text "query failed"), ("error", .text e.message)]) ∧
    (∀ q : Query, (Event.asked true q).fields =
      [("message", .text "query"), ("sql", .text q.sql), ("params", .count q.params.length)]) ∧
    ∀ (settings : Settings) (chain : List (Middleware σ)) (sql : String) (params : List Scalar),
      let plain := (connectWith { settings with logQueries := false } driver chain).run sql params s
      (connectWith { settings with logQueries := true } driver chain).run sql params s =
        ⟨plain.value, plain.state, .event (.asked false ⟨sql, params⟩) ::
          (plain.notes ++ [.event (.ofAnswer plain.value)])⟩ := by
  refine ⟨?_, ?_, ⟨?_, ?_, ?_, ?_⟩, ?_, fields_ofAnswer, fun q => rfl, ?_⟩
  · exact sameButReports_insert redact terminal a b driver query s
  · have connected := sameButReports_insert redact exhausted a (b ++ [executeQuery]) driver query s
    rw [← List.append_assoc, ← List.cons_append, ← List.append_assoc] at connected
    exact connected
  · exact crossings_insert redact terminal a b driver query s
  · exact without_insert redact terminal a b driver query s
  · exact notes_crossings terminal _ driver query s
  · exact notes_crossings terminal _ driver query s
  · exact fun before after d q t h => crossings_from_queryLogger redact terminal h
  · exact fun settings chain sql params => connectWith_logQueries settings driver chain sql params s

def rowful : Driver Unit := ⟨"db", fun _ s => (.ok (.withRows [.null]), s)⟩

theorem queryLogger_behind_twice :
    let run := crossings exhausted ([Stock.twice] ++ queryLogger true :: [executeQuery]) rowful
      ⟨"select ?", [.int 1]⟩ ()
    run = [⟨0, .inward rowful ⟨"select ?", [.int 1]⟩ ()⟩] ++
        ⟨1, .inward rowful ⟨"select ?", [.int 1]⟩ ()⟩ :: run.drop 2 ∧
      ∃ rest, run.drop 2 = ⟨1, .own (.event (.query "select ?" (.count 1)))⟩ ::
        ((crossings exhausted [executeQuery] rowful ⟨"select ?", [.int 1]⟩ ()).map
            (Crossing.behind 2) ++
          ⟨1, .own (.event (.done 1 true))⟩ :: ⟨1, .outward (.ok (.withRows [.null])) ()⟩ :: rest) := by
  intro run
  have entered : run = [⟨0, .inward rowful ⟨"select ?", [.int 1]⟩ ()⟩] ++
      ⟨1, .inward rowful ⟨"select ?", [.int 1]⟩ ()⟩ :: run.drop 2 := rfl
  exact ⟨entered, (queryLogger_transparent [Stock.twice] [executeQuery] true exhausted rowful
    ⟨"select ?", [.int 1]⟩ ()).2.2.2.1 _ _ _ _ _ entered⟩

end SqlMapper

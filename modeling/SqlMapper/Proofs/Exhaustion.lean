import SqlMapper.Connection.Basic
import SqlMapper.Proofs.Trail

/-!
The end of a chain. The last stage of a connection runs the driver and hands nothing
on, so the terminal stage behind it is never reached, whatever the middlewares do: a
statement that reaches the last stage is one call of the driver, and no run brings up
the error of an exhausted chain by itself. Without that stage, middlewares that only
hand on always end in that error.
-/

namespace SqlMapper

variable {σ : Type}

section Keeps

variable (answer : Answer → Prop) (note : Note → Prop)

def Driver.Keeps (d : Driver σ) : Prop := ∀ query s, answer (d.respond query s).1

/-- Notes of its own are as `note` says, and so is its answer as `answer` says if all
the answers are that it is given. -/
def Flow.Keeps : Flow σ Answer → Prop
  | .done a => answer a
  | .line text rest => note (.line text) ∧ rest.Keeps
  | .emit e rest => note (.event e) ∧ rest.Keeps
  | .get rest => ∀ s, (rest s).Keeps
  | .set _ rest => rest.Keeps
  | .next driver _ rest => driver.Keeps answer ∧ ∀ a, answer a → (rest a).Keeps
  | .drive driver query rest =>
    driver.Keeps answer ∧ note (.statement driver.name query) ∧ ∀ a, answer a → (rest a).Keeps

def Middleware.Keeps (m : Middleware σ) : Prop :=
  ∀ driver, Driver.Keeps answer driver → ∀ query, (m driver query).Keeps answer note

def Stage.Keeps (stage : Stage σ) : Prop :=
  ∀ driver, Driver.Keeps answer driver → ∀ query s,
    answer (stage driver query s).value ∧ ∀ n ∈ (stage driver query s).notes, note n

variable {answer note}

theorem Flow.Keeps.run {behind : Stage σ} (h : behind.Keeps answer note) {flow : Flow σ Answer}
    (kept : flow.Keeps answer note) (s : σ) :
    answer (flow.run behind s).value ∧ ∀ n ∈ (flow.run behind s).notes, note n := by
  induction flow generalizing s with
  | done a => exact ⟨kept, by simp [Flow.run]⟩
  | line text rest ih =>
    have later := ih kept.2 s
    exact ⟨later.1, List.forall_mem_cons.2 ⟨kept.1, later.2⟩⟩
  | emit e rest ih =>
    have later := ih kept.2 s
    exact ⟨later.1, List.forall_mem_cons.2 ⟨kept.1, later.2⟩⟩
  | get rest ih => exact ih s (kept s) s
  | set s' rest ih => exact ih kept s'
  | next driver query rest ih =>
    have reached := h driver kept.1 query s
    have later := ih _ (kept.2 _ reached.1) (behind driver query s).state
    exact ⟨later.1, List.forall_mem_append.2 ⟨reached.2, later.2⟩⟩
  | drive driver query rest ih =>
    have driven := kept.1 query s
    have later := ih _ (kept.2.2 _ driven) (driver.run query s).state
    exact ⟨later.1, List.forall_mem_cons.2 ⟨kept.2.1, later.2⟩⟩

theorem compose_keeps {chain : List (Middleware σ)} (h : ∀ m ∈ chain, m.Keeps answer note)
    {last : Stage σ} (kept : last.Keeps answer note) : (compose chain last).Keeps answer note := by
  induction chain with
  | nil => exact kept
  | cons m chain ih =>
    obtain ⟨head, tail⟩ := List.forall_mem_cons.1 h
    exact fun driver hd query s => Flow.Keeps.run (ih tail) (head driver hd query) s

end Keeps

def Flow.Results (a : Answer) : Flow σ Answer → Prop
  | .done b => b = a
  | .line _ rest => rest.Results a
  | .emit _ rest => rest.Results a
  | .get rest => ∀ s, (rest s).Results a
  | .set _ rest => rest.Results a
  | .next .. => False
  | .drive _ _ rest => ∀ b, (rest b).Results a

/-- Hands on exactly once, and results in the answer it gets. -/
def Flow.Forwards : Flow σ Answer → Prop
  | .done _ => False
  | .line _ rest => rest.Forwards
  | .emit _ rest => rest.Forwards
  | .get rest => ∀ s, (rest s).Forwards
  | .set _ rest => rest.Forwards
  | .next _ _ rest => ∀ a, (rest a).Results a
  | .drive _ _ rest => ∀ b, (rest b).Forwards

def Middleware.Forwards (m : Middleware σ) : Prop := ∀ driver query, (m driver query).Forwards

theorem Flow.Results.value_run {a : Answer} {flow : Flow σ Answer} (h : flow.Results a)
    (behind : Stage σ) (s : σ) : (flow.run behind s).value = a := by
  induction flow generalizing s with
  | done b => exact h
  | line text rest ih => exact ih h s
  | emit e rest ih => exact ih h s
  | get rest ih => exact ih s (h s) s
  | set s' rest ih => exact ih h s'
  | next driver query rest ih => exact h.elim
  | drive driver query rest ih => exact ih _ (h _) _

theorem Flow.Forwards.value_run {a : Answer} {behind : Stage σ}
    (h : ∀ driver query s, (behind driver query s).value = a) {flow : Flow σ Answer}
    (forwards : flow.Forwards) (s : σ) : (flow.run behind s).value = a := by
  induction flow generalizing s with
  | done b => exact forwards.elim
  | line text rest ih => exact ih forwards s
  | emit e rest ih => exact ih forwards s
  | get rest ih => exact ih s (forwards s) s
  | set s' rest ih => exact ih forwards s'
  | next driver query rest ih =>
    have got := Flow.Results.value_run (forwards (behind driver query s).value) behind
      (behind driver query s).state
    exact got.trans (h driver query s)
  | drive driver query rest ih => exact ih _ (forwards _) _

theorem compose_value_of_forwards {a : Answer} {last : Stage σ}
    (h : ∀ driver query s, (last driver query s).value = a) {chain : List (Middleware σ)}
    (forwards : ∀ m ∈ chain, m.Forwards) (driver : Driver σ) (query : Query) (s : σ) :
    (compose chain last driver query s).value = a := by
  induction chain generalizing driver query s with
  | nil => exact h driver query s
  | cons m chain ih =>
    obtain ⟨head, tail⟩ := List.forall_mem_cons.1 forwards
    exact Flow.Forwards.value_run (ih tail) (head driver query) s

def Answered (a : Answer) : Prop := a ≠ .error .chainExhausted

def Note.Calm (n : Note) : Prop := ∀ sql, n ≠ .event (.exhausted sql)

def Note.Driverless (n : Note) : Prop := ∀ name query, n ≠ .statement name query

/-- The last stage of a connection: a statement is one call of the driver, with what
the stage received, and the answer is the driver's. -/
theorem before_executeQuery (terminal : Stage σ) (driver : Driver σ) (query : Query) (s : σ) :
    Middleware.before executeQuery terminal driver query s =
      ⟨(driver.respond query s).1, (driver.respond query s).2,
        [.statement driver.name query]⟩ := rfl

theorem compose_execute (chain : List (Middleware σ)) (terminal : Stage σ) :
    compose (chain ++ [executeQuery]) terminal =
      compose chain (Middleware.before executeQuery exhausted) := compose_append chain _ terminal

def Move.driven : Move σ → Note
  | own n => n
  | arrival driver query _ => .statement driver.name query

theorem notes_execute (chain : List (Middleware σ)) (driver : Driver σ) (query : Query) (s : σ) :
    (compose (chain ++ [executeQuery]) exhausted driver query s).notes =
      (moves (Middleware.before executeQuery exhausted) chain driver query s).map Move.driven := by
  have each : Move.notes (Middleware.before executeQuery exhausted) =
      fun m : Move σ => [m.driven] := by
    funext m
    cases m <;> rfl
  rw [compose_execute, notes_compose, each, List.map_eq_flatMap]

theorem event_of_execute {chain : List (Middleware σ)} {driver : Driver σ} {query : Query} {s : σ}
    {e : Event}
    (h : .event e ∈ (compose (chain ++ [executeQuery]) exhausted driver query s).notes) :
    .own (.event e) ∈ moves (Middleware.before executeQuery exhausted) chain driver query s := by
  rw [notes_execute, List.mem_map] at h
  obtain ⟨m, hm, told⟩ := h
  cases m with
  | own n =>
    cases told
    exact hm
  | arrival driver' query' s' => cases told

theorem moves_execute (chain : List (Middleware σ)) (terminal : Stage σ) (driver : Driver σ)
    (query : Query) (s : σ) :
    ∀ m ∈ moves terminal (chain ++ [executeQuery]) driver query s, ∃ n, m = .own n := by
  induction chain generalizing driver query s with
  | nil =>
    intro m hm
    exact ⟨.statement driver.name query, List.mem_singleton.1 hm⟩
  | cons m chain ih => exact Flow.forall_moves (fun n => ⟨n, rfl⟩) ih (m driver query) s

theorem statement_of_exhausted {chain : List (Middleware σ)} {driver : Driver σ} {query : Query}
    {s : σ} {name : String} {q : Query}
    (h : .statement name q ∈ (compose chain exhausted driver query s).notes) :
    .own (.statement name q) ∈ moves exhausted chain driver query s := by
  rw [notes_compose, List.mem_flatMap] at h
  obtain ⟨m, hm, h⟩ := h
  cases m with
  | own n =>
    cases List.mem_singleton.1 h
    exact hm
  | arrival driver' query' s' => cases List.mem_singleton.1 h

theorem executeQuery_keeps :
    Stage.Keeps (σ := σ) Answered Note.Calm (Middleware.before executeQuery exhausted) := by
  intro driver kept query s
  refine ⟨kept query s, fun n hn text => ?_⟩
  cases List.mem_singleton.1 hn
  nofun

theorem exhausted_value (driver : Driver σ) (query : Query) (s : σ) :
    (exhausted driver query s).value = .error .chainExhausted := rfl

theorem exhausted_keeps : Stage.Keeps (σ := σ) (fun _ => True) Note.Driverless exhausted := by
  intro driver _ query s
  refine ⟨trivial, fun n hn name q => ?_⟩
  cases List.mem_singleton.1 hn
  nofun

/-- A connection never exhausts its chain. Its runs are the same in front of any
terminal stage, where nothing arrives; every arrival at the last stage is one call of
the driver with the statement that arrived; and events are told by middlewares alone.
Drivers and middlewares that bring up no error of an exhausted chain by themselves get
none. Without the last stage, middlewares that hand on once and return what they get
always end in that error, and no driver is called but by themselves. -/
theorem connect_never_exhausts (driver : Driver σ) (chain : List (Middleware σ)) (sql : String)
    (params : List Scalar) :
    (∀ terminal : Stage σ,
      (connect driver chain).run sql params =
        compose (chain ++ [executeQuery]) terminal driver ⟨sql, params⟩ ∧
      ∀ s, ∀ m ∈ moves terminal (chain ++ [executeQuery]) driver ⟨sql, params⟩ s,
        ∃ n, m = .own n) ∧
    (∀ (d : Driver σ) (q : Query) (s : σ), Middleware.before executeQuery exhausted d q s =
      ⟨(d.respond q s).1, (d.respond q s).2, [.statement d.name q]⟩) ∧
    (∀ s, ((connect driver chain).run sql params s).notes =
        (moves (Middleware.before executeQuery exhausted) chain driver ⟨sql, params⟩ s).map
          Move.driven ∧
      ∀ e, .event e ∈ ((connect driver chain).run sql params s).notes →
        .own (.event e) ∈
          moves (Middleware.before executeQuery exhausted) chain driver ⟨sql, params⟩ s) ∧
    (driver.Keeps Answered → (∀ m ∈ chain, m.Keeps Answered Note.Calm) → ∀ s,
      ((connect driver chain).run sql params s).value ≠ .error .chainExhausted ∧
      ∀ text, .event (.exhausted text) ∉ ((connect driver chain).run sql params s).notes) ∧
    ((∀ m ∈ chain, m.Forwards) → ∀ s,
      (compose chain exhausted driver ⟨sql, params⟩ s).value = .error .chainExhausted ∧
      (∀ name q, .statement name q ∈ (compose chain exhausted driver ⟨sql, params⟩ s).notes →
        .own (.statement name q) ∈ moves exhausted chain driver ⟨sql, params⟩ s) ∧
      ((∀ m ∈ chain, m.Keeps (fun _ => True) Note.Driverless) → ∀ name q,
        .statement name q ∉ (compose chain exhausted driver ⟨sql, params⟩ s).notes)) := by
  have entry : (connect driver chain).run sql params =
      compose (chain ++ [executeQuery]) exhausted driver ⟨sql, params⟩ := rfl
  refine ⟨fun terminal => ⟨?_, ?_⟩, before_executeQuery exhausted, fun s => ⟨?_, ?_⟩,
    fun kept keeps s => ?_, fun forwards s => ⟨?_, ?_, ?_⟩⟩
  · rw [entry, compose_execute, compose_execute]
  · exact moves_execute chain terminal driver ⟨sql, params⟩
  · rw [entry, notes_execute]
  · exact fun e h => event_of_execute h
  · have run := compose_keeps keeps executeQuery_keeps driver kept ⟨sql, params⟩ s
    rw [entry, compose_execute]
    exact ⟨run.1, fun text h => run.2 _ h text rfl⟩
  · exact compose_value_of_forwards exhausted_value forwards driver ⟨sql, params⟩ s
  · exact fun name q h => statement_of_exhausted h
  · intro keeps name q h
    have run := compose_keeps keeps exhausted_keeps driver (fun _ _ => trivial) ⟨sql, params⟩ s
    exact run.2 _ h name q rfl

def agreeable : Driver Unit := ⟨"db", fun _ s => (.ok .empty, s)⟩

def insistent : List (Middleware Unit) := [queryLogger false, Stock.twice]

def attentive : List (Middleware Unit) := [Stock.trace "outer", queryLogger true]

theorem agreeable_keeps : agreeable.Keeps Answered := fun _ _ => nofun

theorem insistent_keeps : ∀ m ∈ insistent, m.Keeps Answered Note.Calm := by
  refine List.forall_mem_cons.2 ⟨?_, List.forall_mem_singleton.2 ?_⟩
  · intro driver kept query
    refine ⟨fun _ => nofun, kept, fun a ha => ⟨fun _ => ?_, ha⟩⟩
    cases a <;> nofun
  · intro driver kept query
    refine ⟨kept, fun a ha => ?_⟩
    cases a with
    | ok o => exact ⟨kept, fun b hb => hb⟩
    | error e => exact ha

theorem attentive_forwards : ∀ m ∈ attentive, m.Forwards :=
  List.forall_mem_cons.2 ⟨fun _ _ _ => rfl, List.forall_mem_singleton.2 fun _ _ _ => rfl⟩

theorem attentive_keeps : ∀ m ∈ attentive, m.Keeps (fun _ => True) Note.Driverless := by
  refine List.forall_mem_cons.2 ⟨?_, List.forall_mem_singleton.2 ?_⟩
  · intro driver kept query
    exact ⟨fun _ => nofun, kept, fun a _ => ⟨fun _ => nofun, trivial⟩⟩
  · intro driver kept query
    exact ⟨fun _ => nofun, kept, fun a _ => ⟨fun _ => nofun, trivial⟩⟩

theorem connect_insistent_never_exhausts :
    (agreeable.Keeps Answered ∧ (∀ m ∈ insistent, m.Keeps Answered Note.Calm)) ∧
    ((connect agreeable insistent).run "select 1" [] ()).value ≠ .error .chainExhausted ∧
    ((∀ m ∈ attentive, m.Forwards) ∧ ∀ m ∈ attentive, m.Keeps (fun _ => True) Note.Driverless) ∧
    (compose attentive exhausted agreeable ⟨"select 1", []⟩ ()).value = .error .chainExhausted ∧
    ∀ name q, .statement name q ∉
      (compose attentive exhausted agreeable ⟨"select 1", []⟩ ()).notes := by
  have connected := (connect_never_exhausts agreeable insistent "select 1" []).2.2.2.1
    agreeable_keeps insistent_keeps ()
  have bare := (connect_never_exhausts agreeable attentive "select 1" []).2.2.2.2
    attentive_forwards ()
  exact ⟨⟨agreeable_keeps, insistent_keeps⟩, connected.1, ⟨attentive_forwards, attentive_keeps⟩,
    bare.1, bare.2.2 attentive_keeps⟩

end SqlMapper

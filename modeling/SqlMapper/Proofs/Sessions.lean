import Mathlib.Data.List.Induction
import SqlMapper.Proofs.Moments
import SqlMapper.Proofs.Separation

/-!
Whole sessions. A session changes the default connections, makes mappers, and has them
perform operations, in any order. At every moment of it a mapper has the connections it
was made with, the defaults are those that were last set and not reset since, and an
operation runs at most one statement, on the connection of its side
(`reads_and_writes_apart`).
-/

namespace SqlMapper

variable {σ α : Type}

inductive Change (σ : Type) where
  | setReader (c : Connection σ)
  | setWriter (c : Connection σ)
  | setBoth (c : Connection σ)
  | reset

theorem Defaults.get_eq_error_iff {d : Defaults σ} {side : Side} {e : Error} :
    d.get side = .error e ↔ e = .noDefault side ∧ ∀ c, d.get side ≠ .ok c := by
  obtain ⟨reader, writer⟩ := d
  cases side with
  | reader => cases reader <;> simp [get, eq_comm]
  | writer => cases writer <;> simp [get, eq_comm]

namespace Change

def apply : Change σ → Defaults σ → Defaults σ
  | .setReader c, d => d.setReader c
  | .setWriter c, d => d.setWriter c
  | .setBoth c, d => d.setBoth c
  | .reset, _ => .none

def gives : Change σ → Side → Option (Connection σ)
  | .setReader c, .reader => some c
  | .setWriter c, .writer => some c
  | .setBoth c, _ => some c
  | _, _ => none

def Spares (ch : Change σ) (side : Side) : Prop := ch.gives side = none ∧ ch ≠ .reset

theorem get_apply (ch : Change σ) (d : Defaults σ) (side : Side) (c : Connection σ) :
    (ch.apply d).get side = .ok c ↔
      ch.gives side = some c ∨ ch.Spares side ∧ d.get side = .ok c := by
  cases ch <;> cases side <;>
    simp [apply, gives, Spares, Defaults.setReader, Defaults.setWriter, Defaults.setBoth,
      Defaults.none, Defaults.get]

end Change

structure Session (σ : Type) where
  /-- The mappers, in the order in which they were made. -/
  mappers : List (Orm σ)
  world : World σ

def Session.start (s : σ) : Session σ := ⟨[], .start s⟩

inductive Building (σ : Type) where
  | new (c : Connection σ)
  | withConnections (reader writer : Connection σ)
  | ofDefaults
  | withSettings (place : Nat) (settings : Settings)

def Building.make? (S : Session σ) : Building σ → Option (Orm σ)
  | .new c => some (.new c)
  | .withConnections reader writer => some (.withConnections reader writer)
  | .ofDefaults => (Orm.ofDefaults S.world.defaults).toOption
  | .withSettings place settings => S.mappers[place]?.map fun o => o.withSettings settings

inductive Command (σ : Type) : Type 1 where
  | change (ch : Change σ)
  | build (b : Building σ)
  /-- The mapper at a place performs an operation. -/
  | perform {α : Type} (place : Nat) (op : Operation α)

namespace Command

def run : Command σ → Exec (Session σ) Unit
  | .change ch => (World.modifyDefaults ch.apply).onPart Session.world fun S w =>
    { S with world := w }
  | .build b => do
    let S ← Exec.get
    Exec.set { S with mappers := S.mappers ++ (b.make? S).toList }
  | .perform place op => do
    match (← Exec.get).mappers[place]? with
    | none => return
    | some o =>
      let _ ← (o.perform op).onPart Session.world fun S w => { S with world := w }

def runAll : List (Command σ) → Exec (Session σ) Unit
  | [] => return
  | command :: commands => do
    command.run
    runAll commands

def made? (S : Session σ) : Command σ → Option (Orm σ)
  | .build b => b.make? S
  | _ => none

def delivery? (S : Session σ) : Command σ → Option (Delivery σ)
  | .perform place op => S.mappers[place]?.bind fun o => o.delivery? op S.world
  | _ => none

section Step

variable (S : Session σ)

theorem run_perform_of_none {place : Nat} (h : S.mappers[place]? = none) (op : Operation α) :
    (perform place op).run S = ⟨(), S, []⟩ := by
  simp only [run, Exec.bind_run, Exec.get, h]
  rfl

theorem run_perform_of_some {place : Nat} {o : Orm σ} (h : S.mappers[place]? = some o)
    (op : Operation α) :
    (perform place op).run S =
      ⟨(), { S with world := (o.perform op S.world).state }, (o.perform op S.world).notes⟩ := by
  have notes : [] ++ ((o.perform op S.world).notes ++ []) = (o.perform op S.world).notes :=
    List.append_nil _
  rw [← notes]
  simp only [run, Exec.bind_run, Exec.get, h]
  rfl

theorem notes_of_sent {place : Nat} {o : Orm σ} (h : S.mappers[place]? = some o)
    {op : Operation α} {side : Side} {q : Query}
    (sent : op.sent o.settings S.world.cache = some (side, q)) :
    ((perform place op).run S).notes = ((o.connection side).execute q S.world.state).notes := by
  rw [run_perform_of_some S h]
  exact (Orm.perform_of_sent_eq_some sent).1

theorem mappers_run (command : Command σ) :
    (command.run S).state.mappers = S.mappers ++ (command.made? S).toList := by
  cases command with
  | change ch => exact (List.append_nil _).symm
  | build b => rfl
  | perform place op =>
    have none_made : (perform place op).made? S = none := rfl
    rw [none_made, Option.toList_none, List.append_nil]
    cases there : S.mappers[place]? with
    | none => rw [run_perform_of_none S there]
    | some o => rw [run_perform_of_some S there]

theorem get_run (command : Command σ) (side : Side) (c : Connection σ) :
    (command.run S).state.world.defaults.get side = .ok c ↔
      (∃ ch, command = .change ch ∧ ch.gives side = some c) ∨
        (∀ ch, command = .change ch → ch.Spares side) ∧ S.world.defaults.get side = .ok c := by
  cases command with
  | change ch =>
    have applied : ((change ch).run S).state.world.defaults = ch.apply S.world.defaults := rfl
    rw [applied, Change.get_apply]
    simp
  | build b =>
    have same : ((build b).run S).state.world.defaults = S.world.defaults := rfl
    simp [same]
  | perform place op =>
    have same : ((perform place op).run S).state.world.defaults = S.world.defaults := by
      cases there : S.mappers[place]? with
      | none => rw [run_perform_of_none S there]
      | some o =>
        rw [run_perform_of_some S there]
        exact o.defaults_perform op S.world
    simp [same]

theorem notes_run (command : Command σ) :
    (command.run S).notes = (command.delivery? S).toList.flatMap fun d => d.run.notes := by
  cases command with
  | change ch => rfl
  | build b => rfl
  | perform place op =>
    rw [delivery?]
    cases there : S.mappers[place]? with
    | none =>
      rw [run_perform_of_none S there]
      rfl
    | some o =>
      rw [run_perform_of_some S there]
      exact o.notes_perform op S.world

end Step

theorem runAll_append (commands later : List (Command σ)) (S : Session σ) :
    (runAll (commands ++ later) S).state = (runAll later (runAll commands S).state).state := by
  induction commands generalizing S with
  | nil => rfl
  | cons command commands ih => exact ih (command.run S).state

def deliveries : List (Command σ) → Session σ → List (Delivery σ)
  | [], _ => []
  | command :: commands, S =>
    (command.delivery? S).toList ++ deliveries commands (command.run S).state

theorem notes_runAll (commands : List (Command σ)) (S : Session σ) :
    (runAll commands S).notes = (deliveries commands S).flatMap fun d => d.run.notes := by
  induction commands generalizing S with
  | nil => rfl
  | cons command commands ih =>
    have later := ih (command.run S).state
    rw [runAll, Exec.bind_run, deliveries, List.flatMap_append, ← later, ← notes_run]

end Command

open Command

def Session.after (s : σ) (commands : List (Command σ)) : Session σ :=
  (runAll commands (.start s)).state

namespace Session

variable {s : σ} {commands : List (Command σ)}

theorem after_append (s : σ) (commands later : List (Command σ)) :
    after s (commands ++ later) = (runAll later (after s commands)).state :=
  runAll_append commands later (.start s)

theorem after_concat (s : σ) (commands : List (Command σ)) (command : Command σ) :
    after s (commands ++ [command]) = (command.run (after s commands)).state :=
  after_append s commands [command]

/-- The connection was the last one that a side was set to, and was not reset since. -/
def LastSet (side : Side) (commands : List (Command σ)) (c : Connection σ) : Prop :=
  ∃ earlier command later, commands = earlier ++ command :: later ∧
    (∃ ch, command = .change ch ∧ ch.gives side = some c) ∧
      ∀ ch, .change ch ∈ later → ch.Spares side

theorem lastSet_concat {side : Side} {command : Command σ} {c : Connection σ} :
    LastSet side (commands ++ [command]) c ↔
      (∃ ch, command = .change ch ∧ ch.gives side = some c) ∨
        (∀ ch, command = .change ch → ch.Spares side) ∧ LastSet side commands c := by
  unfold LastSet
  rw [exists_moment_concat_iff]
  simp only [List.not_mem_nil, List.mem_append, List.mem_singleton, or_imp, forall_and]
  grind

theorem get_after (s : σ) (commands : List (Command σ)) (side : Side) (c : Connection σ) :
    (after s commands).world.defaults.get side = .ok c ↔ LastSet side commands c := by
  induction commands using List.reverseRecOn with
  | nil =>
    refine iff_of_false ?_ not_exists_moment_nil
    cases side <;> nofun
  | append_singleton commands command ih =>
    rw [after_concat, get_run, lastSet_concat, ih]

inductive Makes (s : σ) (earlier : List (Command σ)) : Command σ → Orm σ → Prop where
  | new (c : Connection σ) : Makes s earlier (.build (.new c)) ⟨c, c, {}⟩
  | withConnections (reader writer : Connection σ) :
    Makes s earlier (.build (.withConnections reader writer)) ⟨reader, writer, {}⟩
  | ofDefaults (reader writer : Connection σ) (hreader : LastSet .reader earlier reader)
    (hwriter : LastSet .writer earlier writer) :
    Makes s earlier (.build .ofDefaults) ⟨reader, writer, {}⟩
  | withSettings (place : Nat) (settings : Settings) (o : Orm σ)
    (there : (after s earlier).mappers[place]? = some o) :
    Makes s earlier (.build (.withSettings place settings)) ⟨o.reader, o.writer, settings⟩

theorem ofDefaults_eq_ok_iff {o : Orm σ} :
    Orm.ofDefaults (after s commands).world.defaults = .ok o ↔
      ∃ reader writer, LastSet .reader commands reader ∧ LastSet .writer commands writer ∧
        o = ⟨reader, writer, {}⟩ := by
  simp only [← get_after s, Orm.ofDefaults, bind_eq_ok_iff]
  constructor
  · rintro ⟨reader, hreader, writer, hwriter, made⟩
    cases made
    exact ⟨reader, writer, hreader, hwriter, rfl⟩
  · rintro ⟨reader, writer, hreader, hwriter, rfl⟩
    exact ⟨reader, hreader, writer, hwriter, rfl⟩

theorem ofDefaults_eq_error_iff {e : Error} :
    Orm.ofDefaults (after s commands).world.defaults = .error e ↔
      (e = .noDefault .reader ∧ ∀ c, ¬ LastSet .reader commands c) ∨
        (e = .noDefault .writer ∧ (∃ c, LastSet .reader commands c) ∧
          ∀ c, ¬ LastSet .writer commands c) := by
  simp only [← get_after s, Orm.ofDefaults, bind_eq_error_iff, Defaults.get_eq_error_iff]
  -- with both sides there is a mapper, so the error is that of a side
  have never : ∀ reader writer : Connection σ,
      (pure (Orm.withConnections reader writer) : Except Error (Orm σ)) ≠ .error e := nofun
  grind

theorem made_iff_makes {command : Command σ} {o : Orm σ} :
    command.made? (after s commands) = some o ↔ Makes s commands command o := by
  constructor
  · intro h
    cases command with
    | change ch => cases h
    | perform place op => cases h
    | build b =>
      cases b with
      | new c =>
        cases h
        exact .new c
      | withConnections reader writer =>
        cases h
        exact .withConnections reader writer
      | ofDefaults =>
        obtain ⟨reader, writer, hreader, hwriter, rfl⟩ :=
          ofDefaults_eq_ok_iff.1 (toOption_eq_some_iff.1 h)
        exact .ofDefaults reader writer hreader hwriter
      | withSettings place settings =>
        obtain ⟨o', there, rfl⟩ := Option.map_eq_some_iff.1 h
        exact .withSettings place settings o' there
  · intro h
    cases h with
    | new c => rfl
    | withConnections reader writer => rfl
    | ofDefaults reader writer hreader hwriter =>
      refine toOption_eq_some_iff.2 ?_
      exact ofDefaults_eq_ok_iff.2 ⟨reader, writer, hreader, hwriter, rfl⟩
    | withSettings place settings o there => exact Option.map_eq_some_iff.2 ⟨o, there, rfl⟩

theorem mapper_after_iff {place : Nat} {o : Orm σ} :
    (after s commands).mappers[place]? = some o ↔
      ∃ earlier command later, commands = earlier ++ command :: later ∧
        (after s earlier).mappers.length = place ∧ Makes s earlier command o := by
  induction commands using List.reverseRecOn with
  | nil => exact iff_of_false nofun not_exists_moment_nil
  | append_singleton commands command ih =>
    rw [exists_moment_concat_iff, ← ih, ← made_iff_makes, after_concat, mappers_run]
    -- the new mapper, if there is one, has the place after the others
    cases command.made? (after s commands) with
    | none => simp
    | some made =>
      rw [Option.toList_some, List.getElem?_append]
      grind

theorem mappers_prefix (commands later : List (Command σ)) :
    (after s commands).mappers <+: (after s (commands ++ later)).mappers := by
  rw [after_append]
  generalize after s commands = S
  induction later generalizing S with
  | nil => exact List.prefix_refl _
  | cons command later ih =>
    have grown : S.mappers <+: (command.run S).state.mappers := by
      rw [mappers_run]
      exact List.prefix_append ..
    exact grown.trans (ih (command.run S).state)

/-- In every session reads and writes are kept apart. A mapper has the connections it was
made with, for good. A mapper is made of the defaults when both sides were set since the
last reset, and else the side that is missing is named, the reader first. Nothing is
noted but what operations hand to connections, and every operation hands over at most one
statement, in the way of `Orm.Separates`. -/
theorem reads_and_writes_apart (s : σ) (commands : List (Command σ)) :
    (∀ place o, (after s commands).mappers[place]? = some o ↔
      ∃ earlier command later, commands = earlier ++ command :: later ∧
        (after s earlier).mappers.length = place ∧ Makes s earlier command o) ∧
    (∀ later, (after s commands).mappers <+: (after s (commands ++ later)).mappers) ∧
    (∀ o, Orm.ofDefaults (after s commands).world.defaults = .ok o ↔
      ∃ reader writer, LastSet .reader commands reader ∧ LastSet .writer commands writer ∧
        o = ⟨reader, writer, {}⟩) ∧
    (∀ e, Orm.ofDefaults (after s commands).world.defaults = .error e ↔
      (e = .noDefault .reader ∧ ∀ c, ¬ LastSet .reader commands c) ∨
        (e = .noDefault .writer ∧ (∃ c, LastSet .reader commands c) ∧
          ∀ c, ¬ LastSet .writer commands c)) ∧
    (runAll commands (.start s)).notes =
      ((deliveries commands (.start s)).flatMap fun d => d.run.notes) ∧
    (∀ (o : Orm σ) {α : Type} (op : Operation α), o.Separates op (after s commands).world) ∧
    (∀ (o : Orm σ) {α : Type} (m : Model α) (a : α),
      o.Idle (.isPersisted m a) (after s commands).world) ∧
    ∀ (o : Orm σ) {α β : Type} (child : Model α) (parent : Model β) (a : α) (fields : Fields Json)
      (key : String), child.data a = .ok fields →
      (o.known (.belongsTo child parent a) (after s commands).world parent).relationKey = key →
      fields.get? key = none ∨ fields.get? key = some .null →
      o.Answers (.belongsTo child parent a) (after s commands).world none := by
  refine ⟨fun place o => mapper_after_iff, mappers_prefix commands, fun o => ofDefaults_eq_ok_iff,
    fun e => ofDefaults_eq_error_iff, notes_runAll commands (.start s),
    fun o α op => o.separates op _, fun o α m a => Orm.idle_of_side_eq_none rfl, ?_⟩
  intro o α β child parent a fields key data hkey absent
  subst hkey
  exact Orm.answers_belongsTo data absent

theorem reads_and_writes_apart_after_reset :
    let a : Connection Unit := connect ⟨"a", fun _ _ => (.ok .empty, ())⟩ []
    let b : Connection Unit := connect ⟨"b", fun _ _ => (.ok .empty, ())⟩ []
    let defaults : List (Command Unit) := [.change (.setBoth b), .change (.setReader a)]
    let commands := defaults ++ .build .ofDefaults :: [.change .reset, .change (.setBoth a)]
    let note : Model Unit := ⟨"note", "Note", none, none, some "note_id", fun _ => .ok .empty,
      fun _ => .ok ()⟩
    let line : Model Unit := { note with
      key := "line", name := "Line", persist := fun _ => .ok (.ofList [("note_id", .null)]) }
    (after () commands).mappers[0]? = some ⟨a, b, {}⟩ ∧
      Orm.Answers ⟨a, b, {}⟩ (.belongsTo line note ()) (after () commands).world none := by
  intro a b defaults commands note line
  have all := reads_and_writes_apart () commands
  have reader : LastSet .reader defaults a :=
    ⟨[.change (.setBoth b)], .change (.setReader a), [], rfl, ⟨_, rfl, rfl⟩, nofun⟩
  have writer : LastSet .writer defaults b := by
    refine ⟨[], .change (.setBoth b), [.change (.setReader a)], rfl, ⟨_, rfl, rfl⟩, ?_⟩
    intro ch hch
    cases List.mem_singleton.1 hch
    exact ⟨rfl, nofun⟩
  have made := Makes.ofDefaults (s := ()) a b reader writer
  refine ⟨(all.1 0 _).2 ⟨_, _, _, rfl, rfl, made⟩, ?_⟩
  have absent := all.2.2.2.2.2.2.2 ⟨a, b, {}⟩ line note () (.ofList [("note_id", .null)]) "note_id"
  exact absent rfl rfl (.inr rfl)

end Session

end SqlMapper

import SqlMapper.Proofs.Sessions
import SqlMapper.Proofs.WriteOnce

/-!
Caching is not seen from outside. As long as every type declares the same metadata each
time, every entry of the cache holds what its type declares, and an operation comes to
the same whether it asks the cache or the model: what it comes to is said without a cache
by `Orm.uncached`. Two sessions that differ in the caching of their mappers have the same
results and the same notes (`caching_unobservable`).
-/

namespace SqlMapper

variable {σ α β : Type} {types : String → Metadata}

/-- A model declares what its type declares every time. -/
def Model.Stable (types : String → Metadata) (m : Model α) : Prop := m.metadata = types m.key

namespace Cache

def Coherent (types : String → Metadata) (c : Cache) : Prop :=
  ∀ e ∈ c.entries, e.metadata = types e.key

theorem Coherent.resolve {c : Cache} (h : c.Coherent types) {m : Model α} (hm : m.Stable types) :
    (c.resolve m).1.metadata = m.metadata ∧ (c.resolve m).2.Coherent types := by
  rw [Cache.resolve]
  split
  · next e found =>
    obtain ⟨he, hkey⟩ := mem_of_find? found
    refine ⟨?_, h⟩
    rw [h e he, hkey, hm]
  · refine ⟨rfl, fun e he => ?_⟩
    rcases List.mem_append.1 he with old | new
    · exact h e old
    · cases List.mem_singleton.1 new
      exact hm

end Cache

def CacheCall.Stable (types : String → Metadata) : CacheCall → Prop
  | .resolve m | .resolveOf m _ => m.Stable types
  | .byName _ | .size | .isEmpty => True

theorem Cache.coherent_reached {calls : List CacheCall} (h : ∀ call ∈ calls, call.Stable types) :
    (reached calls).Coherent types := by
  induction calls using List.reverseRecOn with
  | nil => exact nofun
  | append_singleton calls call ih =>
    rw [List.forall_mem_append] at h
    have before := ih h.1
    have now := h.2 call (List.mem_singleton_self call)
    rw [reached_concat]
    cases call with
    | resolve m => exact (before.resolve now).2
    | resolveOf m a => exact (before.resolve now).2
    | byName name => exact before
    | size => exact before
    | isEmpty => exact before

theorem Planning.found_of_coherent (s : Settings) {c : Cache} (h : c.Coherent types) {m : Model α}
    (hm : m.Stable types) :
    (found s c m).1 = m.metadata ∧ (found s c m).2.Coherent types := by
  unfold found
  split
  · exact h.resolve hm
  · exact ⟨rfl, h⟩

namespace Operation

open Planning

def Stable (types : String → Metadata) : {α : Type} → Operation α → Prop
  | _, .query .. | _, .execute .. => True
  | _, .create m _ | _, .update m _ | _, .save m _ | _, .delete m _ | _, .isPersisted m _
  | _, .findOne m _ | _, .findFirst m | _, .findAll m | _, .findWhere m _ _ => m.Stable types
  | _, .belongsTo child parent _ => child.Stable types ∧ parent.Stable types
  | _, .hasOne parent child _ | _, .hasMany parent child _ =>
    parent.Stable types ∧ child.Stable types

theorem coherent_cacheAfter (s : Settings) {c : Cache} (h : c.Coherent types) {op : Operation α}
    (hop : op.Stable types) : (op.cacheAfter s c).Coherent types := by
  cases op with
  | query template data => exact h
  | execute template data => exact h
  | belongsTo child parent a => exact (found_of_coherent s h hop.2).2
  | hasOne parent child a =>
    have first := (found_of_coherent s h hop.1).2
    exact (found_of_coherent s first hop.2).2
  | hasMany parent child a =>
    have first := (found_of_coherent s h hop.1).2
    exact (found_of_coherent s first hop.2).2
  | _ => exact (found_of_coherent s h hop).2

theorem decided_found (s : Settings) {c : Cache} (h : c.Coherent types) {op : Operation α}
    (hop : op.Stable types) :
    op.decided s (fun m => (found s c m).1) = op.decided s fun m => m.metadata := by
  have declared {β : Type} {m : Model β} (hm : m.Stable types) : (found s c m).1 = m.metadata :=
    (found_of_coherent s h hm).1
  -- an operation decides by the metadata of its own models alone
  cases op with
  | query template data => rfl
  | execute template data => rfl
  | belongsTo child parent a => simp only [decided, declared hop.2]
  | hasOne parent child a => simp only [decided, declared hop.1, declared hop.2]
  | hasMany parent child a => simp only [decided, declared hop.1, declared hop.2]
  | _ => simp only [decided, declared hop]

end Operation

def Settings.caching (s : Settings) (b : Bool) : Settings := { s with cacheMetadata := b }

namespace Orm

def caching (o : Orm σ) (b : Bool) : Orm σ := o.withSettings (o.settings.caching b)

def uncached (o : Orm σ) (op : Operation α) : Exec σ (Except Error α) :=
  o.settle (op.decided o.settings fun m => m.metadata)

/-- With a coherent cache an operation comes to what it comes to without one. -/
theorem perform_of_coherent (o : Orm σ) {op : Operation α} {w : World σ}
    (h : w.cache.Coherent types) (hop : op.Stable types) :
    o.perform op w =
      World.lift (o.uncached op) { w with cache := op.cacheAfter o.settings w.cache } := by
  have after := Operation.coherent_cacheAfter o.settings h hop
  have declared := Operation.decided_found o.settings after hop
  rw [perform_eq_settle, declared, uncached]

theorem settle_caching (o : Orm σ) (b : Bool) (decided : Except Error (Plan α)) :
    (o.caching b).settle decided = o.settle decided := by
  cases decided with
  | error e => rfl
  | ok plan =>
    cases plan with
    | answer a => rfl
    | send side q finish => cases side <;> rfl

theorem uncached_caching (o : Orm σ) (b : Bool) (op : Operation α) :
    (o.caching b).uncached op = o.uncached op := by
  have same : op.decided (o.caching b).settings (fun m => m.metadata) =
      op.decided o.settings fun m => m.metadata := by
    cases op <;> rfl
  rw [uncached, uncached, same, settle_caching]

theorem uncached_congr {o o' : Orm σ} (h : o.caching true = o'.caching true) (op : Operation α) :
    o.uncached op = o'.uncached op := by
  rw [← o.uncached_caching true, h, uncached_caching]

end Orm

def Building.caching (b : Bool) : Building σ → Building σ
  | .withSettings place settings => .withSettings place (settings.caching b)
  | building => building

/-- The same command, where mappers that are given settings cache or do not. Mappers made
without settings have the standard ones. -/
def Command.caching (b : Bool) : Command σ → Command σ
  | .build building => .build (building.caching b)
  | command => command

def Command.Stable (types : String → Metadata) : Command σ → Prop
  | .perform _ op => op.Stable types
  | _ => True

namespace Session

def caching (S : Session σ) (b : Bool) : Session σ :=
  { S with mappers := S.mappers.map fun o => o.caching b }

def result (S : Session σ) (place : Nat) (op : Operation α) : Option (Except Error α) :=
  S.mappers[place]?.map fun o => (o.perform op S.world).value

structure Alike (types : String → Metadata) (S S' : Session σ) : Prop where
  mappers : S.mappers.map (fun o => o.caching true) = S'.mappers.map fun o => o.caching true
  defaults : S.world.defaults = S'.world.defaults
  state : S.world.state = S'.world.state
  coherent : S.world.cache.Coherent types ∧ S'.world.cache.Coherent types

variable {S S' : Session σ}

theorem Alike.mapper (h : Alike types S S') (place : Nat) :
    (S.mappers[place]? = none ∧ S'.mappers[place]? = none) ∨
      ∃ o o', S.mappers[place]? = some o ∧ S'.mappers[place]? = some o' ∧
        o.caching true = o'.caching true := by
  have there := congrArg (fun l : List (Orm σ) => l[place]?) h.mappers
  simp only [List.getElem?_map] at there
  cases hS : S.mappers[place]? with
  | none =>
    rw [hS] at there
    exact .inl ⟨rfl, Option.map_eq_none_iff.1 there.symm⟩
  | some o =>
    rw [hS] at there
    obtain ⟨o', hS', same⟩ := Option.map_eq_some_iff.1 there.symm
    exact .inr ⟨o, o', rfl, hS', same.symm⟩

theorem Alike.result (h : Alike types S S') {op : Operation α} (hop : op.Stable types)
    (place : Nat) : S.result place op = S'.result place op := by
  rcases h.mapper place with ⟨none, none'⟩ | ⟨o, o', some, some', same⟩
  · rw [Session.result, Session.result, none, none']
    rfl
  · rw [Session.result, Session.result, some, some', Option.map_some, Option.map_some,
      o.perform_of_coherent h.coherent.1 hop, o'.perform_of_coherent h.coherent.2 hop,
      Orm.uncached_congr same, h.state]
    rfl

theorem Alike.make? (h : Alike types S S') (building : Building σ) (b b' : Bool) :
    ((building.caching b).make? S).map (fun o => o.caching true) =
      ((building.caching b').make? S').map fun o => o.caching true := by
  cases building with
  | new c => rfl
  | withConnections reader writer => rfl
  | ofDefaults =>
    simp only [Building.caching, Building.make?]
    rw [h.defaults]
  | withSettings place settings =>
    simp only [Building.caching, Building.make?]
    rcases h.mapper place with ⟨none, none'⟩ | ⟨o, o', some, some', same⟩
    · rw [none, none']
      rfl
    · obtain ⟨readers, writers, -⟩ := Orm.mk.inj same
      rw [some, some']
      simp only [Option.map_some, Orm.caching, Orm.withSettings, Settings.caching, readers, writers]

theorem Alike.run (h : Alike types S S') {command : Command σ} (hc : command.Stable types)
    (b b' : Bool) :
    ((command.caching b).run S).notes = ((command.caching b').run S').notes ∧
      Alike types ((command.caching b).run S).state ((command.caching b').run S').state := by
  cases command with
  | change ch => exact ⟨rfl, h.mappers, congrArg ch.apply h.defaults, h.state, h.coherent⟩
  | build building =>
    have made := congrArg Option.toList (h.make? building b b')
    rw [Option.toList_map, Option.toList_map] at made
    refine ⟨rfl, ?_, h.defaults, h.state, h.coherent⟩
    rw [Command.mappers_run, Command.mappers_run, List.map_append, List.map_append, h.mappers]
    exact congrArg (_ ++ ·) made
  | perform place op =>
    have unchanged (b : Bool) : (Command.perform place op : Command σ).caching b =
        .perform place op := rfl
    rw [unchanged, unchanged]
    rcases h.mapper place with ⟨none, none'⟩ | ⟨o, o', some, some', same⟩
    · rw [Command.run_perform_of_none S none, Command.run_perform_of_none S' none']
      exact ⟨rfl, h⟩
    · -- both mappers come to what the operation comes to without a cache
      have run := o.perform_of_coherent h.coherent.1 hc
      have run' := o'.perform_of_coherent h.coherent.2 hc
      have after := Operation.coherent_cacheAfter o.settings h.coherent.1 hc
      have after' := Operation.coherent_cacheAfter o'.settings h.coherent.2 hc
      rw [Orm.uncached_congr same, h.state] at run
      rw [Command.run_perform_of_some S some, Command.run_perform_of_some S' some', run, run']
      exact ⟨rfl, h.mappers, h.defaults, rfl, after, after'⟩

theorem Alike.runAll (h : Alike types S S') {commands : List (Command σ)}
    (hc : ∀ command ∈ commands, command.Stable types) (b b' : Bool) :
    (Command.runAll (commands.map (Command.caching b)) S).notes =
        (Command.runAll (commands.map (Command.caching b')) S').notes ∧
      Alike types (Command.runAll (commands.map (Command.caching b)) S).state
        (Command.runAll (commands.map (Command.caching b')) S').state := by
  induction commands generalizing S S' with
  | nil => exact ⟨rfl, h⟩
  | cons command commands ih =>
    rw [List.forall_mem_cons] at hc
    obtain ⟨notes, next⟩ := h.run hc.1 b b'
    obtain ⟨later, last⟩ := ih next hc.2
    exact ⟨congrArg₂ (· ++ ·) notes later, last⟩

/-- Caching cannot be told. Whatever stable models the cache has resolved before, the
session with caching and the session without it run the same statements in the same
order, leave the same state, and every operation of theirs has the same result. -/
theorem caching_unobservable (S : Session σ) (calls : List CacheCall)
    (hcalls : ∀ call ∈ calls, call.Stable types) (hcache : S.world.cache = Cache.reached calls)
    (commands : List (Command σ)) (hcommands : ∀ command ∈ commands, command.Stable types) :
    let run (b : Bool) (commands : List (Command σ)) :=
      Command.runAll (commands.map (Command.caching b)) (S.caching b)
    (run true commands).notes = (run false commands).notes ∧
      (run true commands).state.world.state = (run false commands).state.world.state ∧
      (run true commands).state.world.defaults = (run false commands).state.world.defaults ∧
      ∀ (earlier : List (Command σ)) {α : Type} (place : Nat) (op : Operation α)
        (later : List (Command σ)), commands = earlier ++ .perform place op :: later →
        (run true earlier).state.result place op = (run false earlier).state.result place op := by
  intro run
  have coherent : S.world.cache.Coherent types := by
    rw [hcache]
    exact Cache.coherent_reached hcalls
  have start : Alike types (S.caching true) (S.caching false) := by
    refine ⟨?_, rfl, rfl, coherent, coherent⟩
    rw [caching, caching, List.map_map, List.map_map]
    rfl
  obtain ⟨notes, last⟩ := start.runAll hcommands true false
  refine ⟨notes, last.state, last.defaults, ?_⟩
  rintro earlier α place op later rfl
  rw [List.forall_mem_append, List.forall_mem_cons] at hcommands
  obtain ⟨-, there⟩ := start.runAll hcommands.1 true false
  exact there.result hcommands.2.1 place

theorem caching_unobservable_namesakes :
    let note : Model Unit := ⟨"note", "Note", none, some "notes", none, fun _ => .ok .empty,
      fun _ => .ok ()⟩
    let memo : Model Unit := { note with key := "memo", tableName? := some "memos" }
    let types := fun key => if key = "note" then note.metadata else memo.metadata
    let calls : List CacheCall := [.resolve memo]
    let db : Connection Unit := connect ⟨"db", fun _ _ => (.ok .empty, ())⟩ []
    let S : Session Unit := ⟨[.new db], ⟨Cache.reached calls, .none, ()⟩⟩
    let commands : List (Command Unit) := [.perform 0 (.findAll note), .perform 0 (.findAll memo)]
    let notes (b : Bool) := (Command.runAll (commands.map (Command.caching b)) (S.caching b)).notes
    (∀ call ∈ calls, call.Stable types) ∧ (∀ command ∈ commands, command.Stable types) ∧
      notes true = notes false ∧
      notes true = [.statement "db" ⟨"select * from notes", []⟩,
        .statement "db" ⟨"select * from memos", []⟩] := by
  intro note memo types calls db S commands notes
  have hnote : note.Stable types := (if_pos rfl).symm
  have hmemo : memo.Stable types := (if_neg (by decide)).symm
  have hcalls : ∀ call ∈ calls, call.Stable types := List.forall_mem_singleton.2 hmemo
  have hcommands : ∀ command ∈ commands, command.Stable types :=
    List.forall_mem_cons.2 ⟨hnote, List.forall_mem_singleton.2 hmemo⟩
  refine ⟨hcalls, hcommands, (caching_unobservable S calls hcalls rfl commands hcommands).1, ?_⟩
  let o : Orm Unit := (Orm.new db).caching true
  let T := ((Command.perform 0 (.findAll note)).run (S.caching true)).state
  have there : (S.caching true).mappers[0]? = some o := rfl
  have there' : T.mappers[0]? = some o := rfl
  have sent : (Operation.findAll note).sent o.settings (S.caching true).world.cache =
      some (.reader, ⟨"select * from notes", []⟩) := by decide +kernel
  have sent' : (Operation.findAll memo).sent o.settings T.world.cache =
      some (.reader, ⟨"select * from memos", []⟩) := by decide +kernel
  have first := Command.notes_of_sent _ there sent
  have second := Command.notes_of_sent _ there' sent'
  exact congrArg₂ (fun a b => a ++ (b ++ [])) first second

end Session

end SqlMapper

import Mathlib.Data.Finset.Card
import Mathlib.Data.List.Induction
import SqlMapper.Model.Cache
import SqlMapper.Proofs.Moments

/-!
The metadata cache is written once. Its calls come in any order, and a type is known by
its key: whatever a model of that key declares later, the cache answers with the entry
made when the key was first resolved (`write_once`). Entries are counted by keys and
looked up by the names they had at that moment.
-/

namespace SqlMapper

variable {α : Type}

inductive CacheCall : Type 1 where
  | resolve {α : Type} (m : Model α)
  | resolveOf {α : Type} (m : Model α) (a : α)
  | byName (name : String)
  | size
  | isEmpty

namespace CacheCall

def run (c : Cache) : CacheCall → Cache
  | resolve m => (c.resolve m).2
  | resolveOf m a => (c.resolveOf m a).2
  | byName _ | size | isEmpty => c

def key? : CacheCall → Option String
  | resolve m | resolveOf m _ => some m.key
  | byName _ | size | isEmpty => none

def candidate? (c : Cache) : CacheCall → Option CacheEntry
  | resolve m | resolveOf m _ => some ⟨c.size, m.key, m.name, m.metadata⟩
  | byName _ | size | isEmpty => none

end CacheCall

namespace Cache

def reached (calls : List CacheCall) : Cache := calls.foldl CacheCall.run .empty

def resolved (calls : List CacheCall) : List String := calls.filterMap CacheCall.key?

/-- The entry was made by a call before which its type was not resolved. -/
def FirstResolved (calls : List CacheCall) (e : CacheEntry) : Prop :=
  ∃ earlier call later, calls = earlier ++ call :: later ∧
    call.candidate? (reached earlier) = some e ∧ e.key ∉ resolved earlier

def keys (c : Cache) : List String := c.entries.map CacheEntry.key

theorem find?_eq_none_iff {c : Cache} {key : String} : c.find? key = none ↔ key ∉ c.keys := by
  simp [find?, keys]

theorem mem_of_find? {c : Cache} {key : String} {e : CacheEntry} (h : c.find? key = some e) :
    e ∈ c.entries ∧ e.key = key := by
  have hkey := List.find?_some h
  exact ⟨List.mem_of_find?_eq_some h, eq_of_beq hkey⟩

theorem find?_of_mem {c : Cache} (distinct : c.keys.Nodup) {e : CacheEntry} (he : e ∈ c.entries) :
    c.find? e.key = some e := by
  cases h : c.find? e.key with
  | none => exact absurd (List.mem_map_of_mem he) (find?_eq_none_iff.1 h)
  | some e' =>
    obtain ⟨he', hkey⟩ := mem_of_find? h
    rw [List.inj_on_of_nodup_map distinct he' he hkey]

theorem resolve_of_mem {c : Cache} {m : Model α} {e : CacheEntry} (distinct : c.keys.Nodup)
    (he : e ∈ c.entries) (hkey : m.key = e.key) : c.resolve m = (e, c) := by
  have found := find?_of_mem distinct he
  rw [← hkey] at found
  rw [resolve, found]

theorem resolve_of_fresh {c : Cache} {m : Model α} (fresh : m.key ∉ c.keys) :
    c.resolve m = (c.entryFor m, ⟨c.entries ++ [c.entryFor m]⟩) := by
  have missed := find?_eq_none_iff.2 fresh
  rw [resolve, missed]

theorem resolve_of_known {c : Cache} {m : Model α} (known : m.key ∈ c.keys) :
    (c.resolve m).2 = c := by
  rw [resolve]
  split
  · rfl
  · next missed => exact absurd known (find?_eq_none_iff.1 missed)

theorem run_cases (c : Cache) (call : CacheCall) :
    (call.run c = c ∧ ∀ key, call.key? = some key → key ∈ c.keys) ∨
      ∃ e, call.candidate? c = some e ∧ e.key ∉ c.keys ∧ call.run c = ⟨c.entries ++ [e]⟩ := by
  have resolving {α : Type} (m : Model α) :
      ((c.resolve m).2 = c ∧ ∀ key, some m.key = some key → key ∈ c.keys) ∨
        ∃ e, some (c.entryFor m) = some e ∧ e.key ∉ c.keys ∧
          (c.resolve m).2 = ⟨c.entries ++ [e]⟩ := by
    by_cases known : m.key ∈ c.keys
    · refine .inl ⟨resolve_of_known known, fun key hkey => ?_⟩
      cases hkey
      exact known
    · exact .inr ⟨_, rfl, known, by rw [resolve_of_fresh known]⟩
  cases call with
  | resolve m => exact resolving m
  | resolveOf m a => exact resolving m
  | byName name => exact .inl ⟨rfl, nofun⟩
  | size => exact .inl ⟨rfl, nofun⟩
  | isEmpty => exact .inl ⟨rfl, nofun⟩

theorem key?_of_candidate? {c : Cache} {call : CacheCall} {e : CacheEntry}
    (h : call.candidate? c = some e) : call.key? = some e.key := by
  cases call <;> cases h <;> rfl

theorem reached_concat (calls : List CacheCall) (call : CacheCall) :
    reached (calls ++ [call]) = call.run (reached calls) := by
  rw [reached, List.foldl_append]
  rfl

theorem resolved_concat (calls : List CacheCall) (call : CacheCall) :
    resolved (calls ++ [call]) = resolved calls ++ call.key?.toList := by
  rw [resolved, List.filterMap_append]
  cases call <;> rfl

theorem firstResolved_concat {calls : List CacheCall} {call : CacheCall} {e : CacheEntry} :
    FirstResolved (calls ++ [call]) e ↔
      (call.candidate? (reached calls) = some e ∧ e.key ∉ resolved calls) ∨ FirstResolved calls e :=
  exists_moment_concat_iff

structure Written (calls : List CacheCall) (c : Cache) : Prop where
  mem_keys : ∀ key, key ∈ c.keys ↔ key ∈ resolved calls
  mem_entries : ∀ e, e ∈ c.entries ↔ FirstResolved calls e
  distinct : c.keys.Nodup
  serials : c.entries.map CacheEntry.serial = List.range c.size

theorem written_nil : Written [] .empty where
  mem_keys _ := iff_of_false List.not_mem_nil List.not_mem_nil
  mem_entries _ := iff_of_false List.not_mem_nil not_exists_moment_nil
  distinct := List.nodup_nil
  serials := rfl

theorem written_concat {calls : List CacheCall} (h : Written calls (reached calls))
    (call : CacheCall) : Written (calls ++ [call]) (reached (calls ++ [call])) := by
  rw [reached_concat]
  rcases run_cases (reached calls) call with ⟨same, known⟩ | ⟨e, made, fresh, grown⟩
  · -- what the call resolves, if anything, was resolved before, so it is no first time
    rw [same]
    have known_key : ∀ key, call.key? = some key → key ∈ resolved calls := fun key hkey =>
      (h.mem_keys key).1 (known key hkey)
    refine ⟨fun key => ?_, fun e => ?_, h.distinct, h.serials⟩
    · rw [h.mem_keys, resolved_concat, List.mem_append, Option.mem_toList]
      exact ⟨.inl, fun either => either.elim id (known_key key)⟩
    · rw [h.mem_entries, firstResolved_concat]
      refine ⟨.inr, fun either => either.elim (fun new => ?_) id⟩
      exact absurd (known_key e.key (key?_of_candidate? new.1)) new.2
  · -- a type is resolved for the first time, and its entry comes last
    rw [grown]
    have size : e.serial = (reached calls).size := by
      cases call <;> cases made <;> rfl
    have key := key?_of_candidate? made
    refine ⟨fun key' => ?_, fun e' => ?_, ?_, ?_⟩
    · rw [keys, List.map_append, List.mem_append, resolved_concat, List.mem_append,
        ← h.mem_keys, key]
      rfl
    · rw [List.mem_append, h.mem_entries, firstResolved_concat, made, ← h.mem_keys,
        List.mem_singleton]
      grind
    · rw [keys, List.map_append, List.map_singleton, ← List.concat_eq_append, List.nodup_concat]
      exact ⟨fresh, h.distinct⟩
    · have grown_size : (Cache.mk ((reached calls).entries ++ [e])).size = (reached calls).size + 1 :=
        List.length_append
      rw [List.map_append, h.serials, List.map_singleton, size, grown_size, List.range_succ]

theorem written (calls : List CacheCall) : Written calls (reached calls) := by
  induction calls using List.reverseRecOn with
  | nil => exact written_nil
  | append_singleton calls call ih => exact written_concat ih call

theorem FirstResolved.unique {calls : List CacheCall} {e e' : CacheEntry}
    (h : FirstResolved calls e) (h' : FirstResolved calls e') (hkey : e.key = e'.key) : e = e' :=
  List.inj_on_of_nodup_map (written calls).distinct (((written calls).mem_entries e).2 h)
    (((written calls).mem_entries e').2 h') hkey

theorem FirstResolved.eq_of_serial {calls : List CacheCall} {e e' : CacheEntry}
    (h : FirstResolved calls e) (h' : FirstResolved calls e') (hserial : e.serial = e'.serial) :
    e = e' := by
  have distinct : ((reached calls).entries.map CacheEntry.serial).Nodup := by
    rw [(written calls).serials]
    exact List.nodup_range
  exact List.inj_on_of_nodup_map distinct (((written calls).mem_entries e).2 h)
    (((written calls).mem_entries e').2 h') hserial

theorem size_reached (calls : List CacheCall) :
    (reached calls).size = (resolved calls).toFinset.card := by
  have same : (reached calls).keys.toFinset = (resolved calls).toFinset := by
    ext key
    rw [List.mem_toFinset, List.mem_toFinset, (written calls).mem_keys]
  rw [← same, List.toFinset_card_of_nodup (written calls).distinct]
  rw [keys, List.length_map, size]

theorem byName_eq_error_iff {c : Cache} {name : String} {e : ModelError} :
    c.byName name = .error e ↔ e = .unknownModel name ∧ ∀ e' ∈ c.entries, e'.name ≠ name := by
  rw [byName]
  cases found : c.entries.find? fun e => e.name == name with
  | none =>
    rw [List.find?_eq_none] at found
    have unnamed : ∀ e' ∈ c.entries, e'.name ≠ name := fun e' he' hname =>
      found e' he' (beq_iff_eq.2 hname)
    constructor
    · intro h
      cases h
      exact ⟨rfl, unnamed⟩
    · rintro ⟨rfl, -⟩
      rfl
  | some e' =>
    have hname := List.find?_some found
    have he' := List.mem_of_find?_eq_some found
    refine iff_of_false nofun fun h => ?_
    exact h.2 e' he' (eq_of_beq hname)

theorem byName_eq_ok {c : Cache} {name : String} {info : Metadata} (h : c.byName name = .ok info) :
    ∃ e ∈ c.entries, e.name = name ∧ e.metadata = info := by
  rw [byName] at h
  split at h
  · next e found =>
    cases h
    have hname := List.find?_some found
    exact ⟨e, List.mem_of_find?_eq_some found, eq_of_beq hname, rfl⟩
  · cases h

/-- Over every run of calls the cache is written once. A type that was resolved gets the
entry of its first time, whose place among the entries tells it from the others, and any
other type gets a new one; there are as many entries as types, and they are found by the
names of that time, in whatever order they are looked through. Calls that resolve nothing
leave the cache. -/
theorem write_once (calls : List CacheCall) :
    (∀ e, FirstResolved calls e → ∀ {α : Type} (m : Model α), m.key = e.key →
      (reached calls).resolve m = (e, reached calls)) ∧
    (∀ {α : Type} (m : Model α), m.key ∉ resolved calls →
      (reached calls).resolve m =
        (⟨(reached calls).size, m.key, m.name, m.metadata⟩, reached (calls ++ [.resolve m]))) ∧
    (∀ {α : Type} (m : Model α) (a : α),
      (reached calls).resolveOf m a = (reached calls).resolve m) ∧
    (∀ key, key ∈ resolved calls → ∃ e, FirstResolved calls e ∧ e.key = key) ∧
    (∀ e e', FirstResolved calls e → FirstResolved calls e' →
      e.serial = e'.serial ∨ e.key = e'.key → e = e') ∧
    (reached calls).size = (resolved calls).toFinset.card ∧
    ((reached calls).isEmpty = true ↔ resolved calls = []) ∧
    (∀ entries : List CacheEntry, entries.Perm (reached calls).entries → ∀ name,
      (∀ error, (Cache.mk entries).byName name = .error error ↔
        error = .unknownModel name ∧ ∀ e, FirstResolved calls e → e.name ≠ name) ∧
      ∀ info, (Cache.mk entries).byName name = .ok info →
        ∃ e, FirstResolved calls e ∧ e.name = name ∧ e.metadata = info) ∧
    (∀ name, reached (calls ++ [.byName name]) = reached calls) ∧
    reached (calls ++ [.size]) = reached calls ∧
    reached (calls ++ [.isEmpty]) = reached calls := by
  have inv := written calls
  refine ⟨?_, ?_, fun m a => rfl, ?_, ?_, size_reached calls, ?_, ?_,
    fun name => reached_concat calls _, reached_concat calls _, reached_concat calls _⟩
  · intro e he α m hkey
    exact resolve_of_mem inv.distinct ((inv.mem_entries e).2 he) hkey
  · intro α m fresh
    have new := resolve_of_fresh fun known => fresh ((inv.mem_keys m.key).1 known)
    have left : reached (calls ++ [.resolve m]) = ((reached calls).resolve m).2 :=
      reached_concat calls _
    rw [left, new]
    rfl
  · intro key hkey
    obtain ⟨e, he, rfl⟩ := List.mem_map.1 ((inv.mem_keys key).2 hkey)
    exact ⟨e, (inv.mem_entries e).1 he, rfl⟩
  · rintro e e' he he' (serial | key)
    · exact he.eq_of_serial he' serial
    · exact he.unique he' key
  · have keys_nil : (reached calls).keys = [] ↔ resolved calls = [] := by
      simp only [List.eq_nil_iff_forall_not_mem, inv.mem_keys]
    rw [isEmpty, List.isEmpty_iff, ← keys_nil, keys, List.map_eq_nil_iff]
  · intro entries perm name
    have mem : ∀ e, e ∈ entries ↔ FirstResolved calls e := fun e =>
      perm.mem_iff.trans (inv.mem_entries e)
    refine ⟨fun error => ?_, fun info h => ?_⟩
    · rw [byName_eq_error_iff]
      simp only [mem]
    · obtain ⟨e, he, hname, hinfo⟩ := byName_eq_ok h
      exact ⟨e, (mem e).1 he, hname, hinfo⟩

theorem write_once_renamed :
    let note : Model Unit := ⟨"note", "Note", none, some "notes", none, fun _ => .ok .empty,
      fun _ => .ok ()⟩
    let memo : Model Unit := { note with name := "Memo", tableName? := some "memos" }
    let calls : List CacheCall := [.byName "Note", .resolve note, .isEmpty]
    FirstResolved calls ⟨0, "note", "Note", note.metadata⟩ ∧ memo.key = "note" ∧
      (reached calls).resolve memo = (⟨0, "note", "Note", note.metadata⟩, reached calls) ∧
      memo.metadata ≠ note.metadata := by
  intro note memo calls
  have first : FirstResolved calls ⟨0, "note", "Note", note.metadata⟩ :=
    ⟨[.byName "Note"], .resolve note, [.isEmpty], rfl, rfl, List.not_mem_nil⟩
  refine ⟨first, rfl, (write_once calls).1 _ first memo rfl, fun same => ?_⟩
  have tables : "memos" = "notes" := congrArg Metadata.tableName same
  exact absurd tables (by decide)

end Cache

end SqlMapper

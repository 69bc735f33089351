/-!
Finite maps from names to values, kept as a list of entries in strictly
ascending order of their names. Names are compared character by character, which
is also the order of their UTF-8 bytes. Two maps with the same lookups are the
same map (`Fields.ext_get?`), so equality of maps is equality of entry lists.
-/

namespace SqlMapper

universe u

structure Fields (α : Type u) where
  entries : List (String × α)
  ascending : (entries.map Prod.fst).Pairwise (· < ·)

namespace Fields

variable {α : Type u}

@[ext] theorem ext {f g : Fields α} (h : f.entries = g.entries) : f = g := by
  cases f; cases g; cases h; rfl

def empty : Fields α := ⟨[], .nil⟩

instance : Inhabited (Fields α) := ⟨empty⟩

def size (f : Fields α) : Nat := f.entries.length

def isEmpty (f : Fields α) : Bool := f.entries.isEmpty

def keys (f : Fields α) : List String := f.entries.map Prod.fst

def lookup (name : String) : List (String × α) → Option α
  | [] => none
  | (k, v) :: rest => if k = name then some v else lookup name rest

def get? (f : Fields α) (name : String) : Option α := lookup name f.entries

def contains (f : Fields α) (name : String) : Bool := (f.get? name).isSome

def place (name : String) (value : α) : List (String × α) → List (String × α)
  | [] => [(name, value)]
  | (k, v) :: rest =>
    if name < k then (name, value) :: (k, v) :: rest
    else if k < name then (k, v) :: place name value rest
    else (name, value) :: rest

theorem mem_keys_place (name : String) (value : α) (entries : List (String × α)) (k : String) :
    k ∈ (place name value entries).map Prod.fst ↔ k = name ∨ k ∈ entries.map Prod.fst := by
  induction entries with
  | nil => simp [place]
  | cons e rest ih =>
    obtain ⟨k', v'⟩ := e
    simp only [place]
    split
    · simp
    · split
      · simp only [List.map_cons, List.mem_cons, ih]
        grind
      · have : k' = name := by grind
        simp [this]

theorem ascending_place (name : String) (value : α) {entries : List (String × α)}
    (h : (entries.map Prod.fst).Pairwise (· < ·)) :
    ((place name value entries).map Prod.fst).Pairwise (· < ·) := by
  induction entries with
  | nil => simp [place]
  | cons e rest ih =>
    obtain ⟨k, v⟩ := e
    simp only [List.map_cons, List.pairwise_cons] at h
    simp only [place]
    split
    · simp only [List.map_cons, List.pairwise_cons, List.mem_cons]
      exact ⟨fun x hx => by grind, h.1, h.2⟩
    · split
      · simp only [List.map_cons, List.pairwise_cons]
        refine ⟨fun x hx => ?_, ih h.2⟩
        rcases (mem_keys_place name value rest x).1 hx with rfl | hx
        · assumption
        · exact h.1 x hx
      · have : k = name := by grind
        subst this
        simpa using h

theorem lookup_place (name : String) (value : α) {entries : List (String × α)}
    (h : (entries.map Prod.fst).Pairwise (· < ·)) (x : String) :
    lookup x (place name value entries) = if x = name then some value else lookup x entries := by
  induction entries with
  | nil => simp only [place, lookup]; grind
  | cons e rest ih =>
    obtain ⟨k, v⟩ := e
    simp only [List.map_cons, List.pairwise_cons] at h
    simp only [place]
    split
    · simp only [lookup]; grind
    · split
      · simp only [lookup, ih h.2]; grind
      · simp only [lookup]; grind

theorem lookup_eq_none_iff (x : String) (entries : List (String × α)) :
    lookup x entries = none ↔ x ∉ entries.map Prod.fst := by
  induction entries with
  | nil => simp [lookup]
  | cons e rest ih =>
    obtain ⟨k, v⟩ := e
    by_cases h : x = k
    · simp [lookup, h]
    · simp only [lookup, if_neg (Ne.symm h), ih, List.map_cons, List.mem_cons, h, false_or]

def insert (f : Fields α) (name : String) (value : α) : Fields α :=
  ⟨place name value f.entries, ascending_place name value f.ascending⟩

@[simp] theorem get?_insert (f : Fields α) (name : String) (value : α) (x : String) :
    (f.insert name value).get? x = if x = name then some value else f.get? x :=
  lookup_place name value f.ascending x

@[simp] theorem get?_empty (x : String) : (empty : Fields α).get? x = none := rfl

theorem contains_insert (f : Fields α) (name : String) (value : α) (x : String) :
    (f.insert name value).contains x = (decide (x = name) || f.contains x) := by
  rw [contains, get?_insert]
  by_cases h : x = name <;> simp [contains, h]

/-- Later entries replace earlier ones of the same name. -/
def insertAll (f : Fields α) (entries : List (String × α)) : Fields α :=
  entries.foldl (fun f e => f.insert e.1 e.2) f

def ofList (entries : List (String × α)) : Fields α := empty.insertAll entries

theorem get?_insertAll_of_notMem {entries : List (String × α)} {name : String}
    (h : name ∉ entries.map Prod.fst) (f : Fields α) :
    (f.insertAll entries).get? name = f.get? name := by
  induction entries generalizing f with
  | nil => rfl
  | cons e rest ih =>
    simp only [List.map_cons, List.mem_cons, not_or] at h
    show ((f.insert e.1 e.2).insertAll rest).get? name = _
    rw [ih h.2, get?_insert, if_neg h.1]

theorem get?_insertAll_of_mem {entries : List (String × α)}
    (distinct : (entries.map Prod.fst).Nodup) {e : String × α} (he : e ∈ entries) (f : Fields α) :
    (f.insertAll entries).get? e.1 = some e.2 := by
  induction entries generalizing f with
  | nil => cases he
  | cons x rest ih =>
    rw [List.map_cons, List.nodup_cons] at distinct
    show ((f.insert x.1 x.2).insertAll rest).get? e.1 = _
    rcases List.mem_cons.1 he with rfl | he
    · rw [get?_insertAll_of_notMem distinct.1, get?_insert, if_pos rfl]
    · exact ih distinct.2 he _

theorem contains_insertAll (f : Fields α) (entries : List (String × α)) (x : String) :
    (f.insertAll entries).contains x = true ↔ x ∈ entries.map Prod.fst ∨ f.contains x = true := by
  induction entries generalizing f with
  | nil => simp [insertAll]
  | cons e rest ih =>
    show ((f.insert e.1 e.2).insertAll rest).contains x = true ↔ _
    rw [ih, contains_insert, Bool.or_eq_true, decide_eq_true_eq, List.map_cons, List.mem_cons,
      or_left_comm, or_assoc]

def others (f : Fields α) (name : String) : List (String × α) :=
  f.entries.filter fun e => e.1 != name

theorem mem_others (f : Fields α) (name : String) (e : String × α) :
    e ∈ f.others name ↔ e ∈ f.entries ∧ e.1 ≠ name := by
  simp [others]

theorem keys_others (f : Fields α) (name : String) :
    (f.others name).map Prod.fst = f.keys.filter (· != name) := by
  rw [keys, List.filter_map]
  rfl

theorem ascending_others (f : Fields α) (name : String) :
    ((f.others name).map Prod.fst).Pairwise (· < ·) :=
  f.ascending.sublist ((List.filter_sublist).map Prod.fst)

theorem nodup_others (f : Fields α) (name : String) : ((f.others name).map Prod.fst).Nodup :=
  (f.ascending_others name).imp fun h => by
    rintro rfl
    exact String.lt_irrefl _ h

theorem lookup_eq_some_of_mem {entries : List (String × α)}
    (h : (entries.map Prod.fst).Pairwise (· < ·)) {k : String} {v : α} (hm : (k, v) ∈ entries) :
    lookup k entries = some v := by
  induction entries with
  | nil => simp at hm
  | cons e rest ih =>
    obtain ⟨k', v'⟩ := e
    simp only [List.map_cons, List.pairwise_cons] at h
    rcases List.mem_cons.1 hm with hm | hm
    · cases hm
      simp [lookup]
    · have hk : k' < k := h.1 k (List.mem_map.2 ⟨(k, v), hm, rfl⟩)
      have : k' ≠ k := by grind
      simp [lookup, this, ih h.2 hm]

theorem mem_of_lookup_eq_some {entries : List (String × α)} {k : String} {v : α}
    (h : lookup k entries = some v) : (k, v) ∈ entries := by
  induction entries with
  | nil => simp [lookup] at h
  | cons e rest ih =>
    obtain ⟨k', v'⟩ := e
    simp only [lookup] at h
    split at h
    · simp_all
    · exact List.mem_cons_of_mem _ (ih h)

theorem get?_eq_some_iff (f : Fields α) (k : String) (v : α) :
    f.get? k = some v ↔ (k, v) ∈ f.entries :=
  ⟨mem_of_lookup_eq_some, lookup_eq_some_of_mem f.ascending⟩

theorem entries_eq_of_mem_iff {a b : List (String × α)}
    (ha : (a.map Prod.fst).Pairwise (· < ·)) (hb : (b.map Prod.fst).Pairwise (· < ·))
    (h : ∀ e, e ∈ a ↔ e ∈ b) : a = b := by
  induction a generalizing b with
  | nil =>
    cases b with
    | nil => rfl
    | cons e _ => exact absurd ((h e).2 (by simp)) (by simp)
  | cons x a ih =>
    cases b with
    | nil => exact absurd ((h x).1 (by simp)) (by simp)
    | cons y b =>
      simp only [List.map_cons, List.pairwise_cons] at ha hb
      have below : ∀ {z : String × α} {l : List (String × α)}, z ∈ l → z.1 ∈ l.map Prod.fst :=
        fun hz => List.mem_map.2 ⟨_, hz, rfl⟩
      have hxy : x = y := by
        rcases List.mem_cons.1 ((h x).1 (by simp)) with hx | hx
        · exact hx
        · rcases List.mem_cons.1 ((h y).2 (by simp)) with hy | hy
          · exact hy.symm
          · have h1 := hb.1 x.1 (below hx)
            have h2 := ha.1 y.1 (below hy)
            exact absurd h1 (String.lt_asymm h2)
      subst hxy
      have hrest : ∀ e, e ∈ a ↔ e ∈ b := by
        intro e
        constructor
        · intro he
          rcases List.mem_cons.1 ((h e).1 (List.mem_cons_of_mem _ he)) with hx | hx
          · exact absurd (hx ▸ ha.1 e.1 (below he)) (String.lt_irrefl _)
          · exact hx
        · intro he
          rcases List.mem_cons.1 ((h e).2 (List.mem_cons_of_mem _ he)) with hx | hx
          · exact absurd (hx ▸ hb.1 e.1 (below he)) (String.lt_irrefl _)
          · exact hx
      rw [ih ha.2 hb.2 hrest]

theorem ext_get? {f g : Fields α} (h : ∀ k, f.get? k = g.get? k) : f = g := by
  apply ext
  apply entries_eq_of_mem_iff f.ascending g.ascending
  rintro ⟨k, v⟩
  rw [← get?_eq_some_iff, ← get?_eq_some_iff, h]

theorem ofList_of_ascending {entries : List (String × α)}
    (h : (entries.map Prod.fst).Pairwise (· < ·)) : ofList entries = ⟨entries, h⟩ := by
  have distinct : (entries.map Prod.fst).Nodup := h.imp fun lt => by
    rintro rfl
    exact String.lt_irrefl _ lt
  apply ext_get?
  intro k
  by_cases hk : k ∈ entries.map Prod.fst
  · obtain ⟨⟨_, v⟩, he, rfl⟩ := List.mem_map.1 hk
    rw [ofList, get?_insertAll_of_mem distinct he]
    exact (lookup_eq_some_of_mem h he).symm
  · rw [ofList, get?_insertAll_of_notMem hk, get?_empty]
    exact ((lookup_eq_none_iff k entries).2 hk).symm

end Fields

end SqlMapper

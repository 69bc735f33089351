import SqlMapper.Model.Basic
import SqlMapper.Proofs.Result

/-!
The data of a value and the key in it. The data holds no reserved names, and a
value that has a key has it under one of the names of its data.
-/

namespace SqlMapper.Model

variable {α : Type}

def Keyed (info : Metadata) (fields : Fields Json) (id : Scalar) : Prop :=
  ∃ v, fields.get? info.primaryKey = some v ∧ v ≠ .null ∧ Scalar.ofJson? v = some id

def Unkeyed (info : Metadata) (fields : Fields Json) : Prop :=
  fields.get? info.primaryKey = none ∨ fields.get? info.primaryKey = some .null

theorem data_eq_ok_iff {m : Model α} {a : α} {fields : Fields Json} :
    m.data a = .ok fields ↔
      m.persist a = .ok fields ∧ ∀ name ∈ fields.keys, isReserved name = false := by
  rw [data, bind_eq_ok_iff]
  refine ⟨?_, ?_⟩
  · intro h
    obtain ⟨written, hwritten, h⟩ := h
    cases hfind : written.keys.find? isReserved with
    | some name =>
      rw [hfind] at h
      cases h
    | none =>
      rw [hfind] at h
      cases h
      exact ⟨hwritten, fun name hname => by simpa using List.find?_eq_none.1 hfind name hname⟩
  · intro h
    have hfind : fields.keys.find? isReserved = none :=
      List.find?_eq_none.2 fun name hname => by simp [h.2 name hname]
    exact ⟨fields, h.1, by rw [hfind]; rfl⟩

theorem keyValue_eq_some_iff {m : Model α} {info : Metadata} {fields : Fields Json} {id : Scalar} :
    m.keyValue info fields = .ok (some id) ↔ Keyed info fields id := by
  unfold keyValue Keyed
  split
  · rename_i h
    simp [h]
  · rename_i h
    simp [h]
  · rename_i v hnull h
    have hv : v ≠ .null := hnull
    split
    · rename_i s hs
      simp [h, hv, hs]
    · rename_i hs
      simp [h, hs]

theorem keyValue_eq_none_iff {m : Model α} {info : Metadata} {fields : Fields Json} :
    m.keyValue info fields = .ok none ↔ Unkeyed info fields := by
  unfold keyValue Unkeyed
  split
  · rename_i h
    simp [h]
  · rename_i h
    simp [h]
  · rename_i v hnull h
    have hv : v ≠ .null := hnull
    split
    · simp [h, hv]
    · simp [h, hv]

theorem requireKey_eq_ok_iff {m : Model α} {info : Metadata} {fields : Fields Json} {id : Scalar} :
    m.requireKey info fields = .ok id ↔ Keyed info fields id := by
  rw [← keyValue_eq_some_iff (m := m), requireKey, bind_eq_ok_iff]
  refine ⟨?_, fun h => ⟨some id, h, rfl⟩⟩
  intro h
  obtain ⟨found, hfound, h⟩ := h
  cases found with
  | none => cases h
  | some s =>
    cases h
    exact hfound

theorem Keyed.mem_keys {info : Metadata} {fields : Fields Json} {id : Scalar}
    (h : Keyed info fields id) : info.primaryKey ∈ fields.keys := by
  obtain ⟨v, hv, -⟩ := h
  exact List.mem_map_of_mem (Fields.mem_of_lookup_eq_some hv)

theorem Keyed.not_unkeyed {info : Metadata} {fields : Fields Json} {id : Scalar}
    (h : Keyed info fields id) : ¬ Unkeyed info fields := by
  obtain ⟨v, hv, hnull, -⟩ := h
  intro h
  rcases h with absent | null
  · rw [hv] at absent
    cases absent
  · rw [hv] at null
    exact hnull (Option.some.inj null)

end SqlMapper.Model

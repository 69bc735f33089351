import SqlMapper.Binding
import SqlMapper.Proofs.Reading
import SqlMapper.Proofs.Validation

/-!
Data written as JSON. An object is taken as data if and only if each member is a
scalar or a list of scalars, and then each member is an entry. Otherwise the member
of the least key that does not fit is named, with the kind that does not fit.
-/

namespace SqlMapper

namespace Json

def Plain (v : Json) : Prop := v.kind ≠ .array ∧ v.kind ≠ .object

instance (v : Json) : Decidable v.Plain :=
  inferInstanceAs (Decidable (v.kind ≠ .array ∧ v.kind ≠ .object))

inductive Flat : Json → Prop
  | plain {v : Json} (h : v.Plain) : Flat v
  | list {items : List Json} (each : ∀ item ∈ items, item.Plain) : Flat (.arr items)

theorem eq_arr_or (v : Json) : (∃ items, v = .arr items) ∨ v.kind ≠ .array := by
  cases v <;> simp [kind]

theorem eq_obj_or (v : Json) : (∃ members, v = .obj members) ∨ v.kind ≠ .object := by
  cases v <;> simp [kind]

theorem not_plain_iff (v : Json) : ¬ v.Plain ↔ Scalar.ofJson? v = none := by
  rw [Statement.ofJson?_eq_none_iff, Plain, not_and_or, not_not, not_not]

theorem flat_arr_iff (items : List Json) : (arr items).Flat ↔ ∀ item ∈ items, item.Plain := by
  refine ⟨fun h => ?_, .list⟩
  cases h with
  | plain h => exact absurd rfl h.1
  | list each => exact each

theorem flat_iff_of_kind_ne {v : Json} (h : v.kind ≠ .array) : v.Flat ↔ v.kind ≠ .object := by
  refine ⟨fun flat => ?_, fun notObject => .plain ⟨h, notObject⟩⟩
  cases flat with
  | plain plain => exact plain.2
  | list each => exact absurd rfl h

end Json

theorem scalarFor_eq_ok_iff (identifier : String) (v : Json) (s : Scalar) :
    scalarFor identifier v = .ok s ↔ Scalar.ofJson? v = some s := by
  rw [scalarFor]
  cases Scalar.ofJson? v <;> simp

theorem scalarFor_eq_error_iff (identifier : String) (v : Json) (e : BindingError) :
    scalarFor identifier v = .error e ↔ ¬ v.Plain ∧ e = .invalidValue identifier v.kind := by
  rw [Json.not_plain_iff, scalarFor]
  cases Scalar.ofJson? v <;> simp [eq_comm]

namespace Bindable

inductive Reads : Json → Bindable → Prop
  | one {v : Json} {s : Scalar} (scalar : Scalar.ofJson? v = some s) : Reads v (.one s)
  | many {items : List Json} {ss : List Scalar}
      (each : List.Forall₂ (fun item s => Scalar.ofJson? item = some s) items ss) :
      Reads (.arr items) (.many ss)

/-- What is reported of a value that is no entry: that it is an object, or the kind of
the first item of a list that is not plain. -/
inductive Fault (identifier : String) : Json → BindingError → Prop
  | object {v : Json} (h : v.kind = .object) : Fault identifier v (.invalidValue identifier .object)
  | item {items : List Json} {e : BindingError}
      (first : FirstFault (fun item e => ¬ item.Plain ∧ e = .invalidValue identifier item.kind)
        items e) : Fault identifier (.arr items) e

theorem ofJson_of_kind_ne {v : Json} (h : v.kind ≠ .array) (identifier : String) :
    ofJson identifier v = (scalarFor identifier v).map .one := by
  cases v with
  | arr items => exact absurd rfl h
  | _ => rfl

theorem ofJson_eq_ok_iff (identifier : String) (v : Json) (b : Bindable) :
    ofJson identifier v = .ok b ↔ Reads v b := by
  obtain ⟨items, rfl⟩ | notArray := v.eq_arr_or
  · simp only [ofJson, map_eq_ok_iff, mapM_eq_ok_iff, scalarFor_eq_ok_iff]
    refine ⟨fun h => ?_, fun h => ?_⟩
    · obtain ⟨ss, each, rfl⟩ := h
      exact .many each
    · cases h with
      | one scalar => cases scalar
      | many each => exact ⟨_, each, rfl⟩
  · simp only [ofJson_of_kind_ne notArray, map_eq_ok_iff, scalarFor_eq_ok_iff]
    refine ⟨fun h => ?_, fun h => ?_⟩
    · obtain ⟨s, scalar, rfl⟩ := h
      exact .one scalar
    · cases h with
      | one scalar => exact ⟨_, scalar, rfl⟩
      | many each => exact absurd rfl notArray

theorem ofJson_eq_error_iff (identifier : String) (v : Json) (e : BindingError) :
    ofJson identifier v = .error e ↔ Fault identifier v e := by
  obtain ⟨items, rfl⟩ | notArray := v.eq_arr_or
  · simp only [ofJson, map_eq_error_iff, mapM_eq_error_iff, scalarFor_eq_error_iff]
    refine ⟨.item, fun h => ?_⟩
    cases h with
    | object h => cases h
    | item first => exact first
  · rw [ofJson_of_kind_ne notArray, map_eq_error_iff, scalarFor_eq_error_iff]
    refine ⟨fun h => ?_, fun h => ?_⟩
    · obtain ⟨unfit, rfl⟩ := h
      have object : v.kind = .object := by
        by_contra notObject
        exact unfit ⟨notArray, notObject⟩
      rw [object]
      exact .object object
    · cases h with
      | object object => exact ⟨fun plain => plain.2 object, by rw [object]⟩
      | item first => exact absurd rfl notArray

theorem exists_fault_iff (identifier : String) (v : Json) :
    (∃ e, Fault identifier v e) ↔ ¬ v.Flat := by
  obtain ⟨items, rfl⟩ | notArray := v.eq_arr_or
  · simp only [← ofJson_eq_error_iff, ofJson, map_eq_error_iff, mapM_eq_error_iff,
      exists_firstFault_iff, scalarFor_eq_error_iff, Json.flat_arr_iff]
    simp
  · rw [Json.flat_iff_of_kind_ne notArray, not_not]
    refine ⟨fun h => ?_, fun object => ⟨_, .object object⟩⟩
    obtain ⟨e, h⟩ := h
    cases h with
    | object object => exact object
    | item first => exact absurd rfl notArray

end Bindable

namespace Mapping

structure Reads (m : String × Json) (entry : String × Bindable) : Prop where
  name : entry.1 = m.1
  value : Bindable.Reads m.2 entry.2

def LeastFault (members : List (String × Json)) (e : BindingError) : Prop :=
  ∃ m ∈ members, Bindable.Fault m.1 m.2 e ∧ ∀ m' ∈ members, m'.1 < m.1 → m'.2.Flat

theorem readMembers_eq_ok_iff (members : List (String × Json))
    (entries : List (String × Bindable)) :
    readMembers members = .ok entries ↔ List.Forall₂ Reads members entries := by
  have entry (m : String × Json) (e : String × Bindable) :
      (Bindable.ofJson m.1 m.2).map (m.1, ·) = .ok e ↔ Reads m e := by
    rw [map_eq_ok_iff]
    simp only [Bindable.ofJson_eq_ok_iff]
    refine ⟨fun h => ?_, fun h => ?_⟩
    · obtain ⟨b, reads, rfl⟩ := h
      exact ⟨rfl, reads⟩
    · exact ⟨e.2, h.value, by rw [← h.name]⟩
  simp only [readMembers, mapM_eq_ok_iff, entry]

theorem readMembers_eq_error_iff {members : List (String × Json)}
    (ascending : (members.map Prod.fst).Pairwise (· < ·)) (e : BindingError) :
    readMembers members = .error e ↔ LeastFault members e := by
  have fits (m : String × Json) : (∀ e, ¬ Bindable.Fault m.1 m.2 e) ↔ m.2.Flat := by
    rw [← not_exists, Bindable.exists_fault_iff, not_not]
  simp only [readMembers, mapM_eq_error_iff, map_eq_error_iff, Bindable.ofJson_eq_error_iff,
    firstFault_iff_least ascending, fits, LeastFault]

theorem exists_readMembers_iff (members : List (String × Json)) :
    (∃ entries, readMembers members = .ok entries) ↔ ∀ m ∈ members, m.2.Flat := by
  simp only [exists_ok_iff, readMembers, mapM_eq_error_iff, map_eq_error_iff,
    exists_firstFault_iff, Bindable.ofJson_eq_error_iff, Bindable.exists_fault_iff]
  push Not
  rfl

section

variable {members : List (String × Json)} {entries : List (String × Bindable)}

theorem keys_of_reads (h : List.Forall₂ Reads members entries) :
    entries.map Prod.fst = members.map Prod.fst := by
  induction h with
  | nil => rfl
  | cons here _ ih => rw [List.map_cons, List.map_cons, ih, here.name]

theorem entry_of_reads (h : List.Forall₂ Reads members entries) {m : String × Json}
    (hm : m ∈ members) : ∃ b, Bindable.Reads m.2 b ∧ (m.1, b) ∈ entries := by
  induction h with
  | nil => cases hm
  | @cons m' e members entries here _ ih =>
    obtain rfl | hm := List.mem_cons.1 hm
    · refine ⟨e.2, here.value, ?_⟩
      rw [← here.name]
      exact List.mem_cons_self
    · obtain ⟨b, reads, hb⟩ := ih hm
      exact ⟨b, reads, List.mem_cons_of_mem _ hb⟩

end

theorem ofJson_obj_of_ok {members : List (String × Json)}
    (ascending : (members.map Prod.fst).Pairwise (· < ·)) {d : Mapping}
    (h : ofJson (.obj members) = .ok d) : d.keys = members.map Prod.fst ∧
      ∀ m ∈ members, ∃ b, Bindable.Reads m.2 b ∧ d.get? m.1 = some b := by
  obtain ⟨entries, hr, rfl⟩ := map_eq_ok_iff.1 h
  have reads := (readMembers_eq_ok_iff members entries).1 hr
  have keys := keys_of_reads reads
  have inOrder : (entries.map Prod.fst).Pairwise (· < ·) := by
    rw [keys]
    exact ascending
  rw [Fields.ofList_of_ascending inOrder]
  refine ⟨keys, fun m hm => ?_⟩
  obtain ⟨b, hb, mem⟩ := entry_of_reads reads hm
  exact ⟨b, hb, Fields.lookup_eq_some_of_mem inOrder mem⟩

theorem ofJson_of_kind_ne {v : Json} (h : v.kind ≠ .object) :
    ofJson v = .error (.invalidValue "" v.kind) := by
  cases v with
  | obj members => exact absurd rfl h
  | _ => rfl

theorem exists_ofJson_iff (v : Json) :
    (∃ d, ofJson v = .ok d) ↔ ∃ members, v = .obj members ∧ ∀ m ∈ members, m.2.Flat := by
  obtain ⟨members, rfl⟩ | notObject := v.eq_obj_or
  · simp only [Json.obj.injEq, exists_eq_left', ← exists_readMembers_iff, ofJson, map_eq_ok_iff]
    refine ⟨fun h => ?_, fun h => ?_⟩
    · obtain ⟨_, entries, read, -⟩ := h
      exact ⟨entries, read⟩
    · obtain ⟨entries, read⟩ := h
      exact ⟨_, entries, read, rfl⟩
  · rw [ofJson_of_kind_ne notObject]
    refine iff_of_false (by simp) ?_
    rintro ⟨members, rfl, -⟩
    exact notObject rfl

theorem ofJson_eq_error_iff {v : Json} (ordered : v.Ordered) (e : BindingError) :
    ofJson v = .error e ↔ v.kind ≠ .object ∧ e = .invalidValue "" v.kind ∨
      ∃ members, v = .obj members ∧ LeastFault members e := by
  obtain ⟨members, rfl⟩ | notObject := v.eq_obj_or
  · cases ordered with
    | obj _ ascending _ =>
      rw [ofJson, map_eq_error_iff, readMembers_eq_error_iff ascending]
      simp [Json.kind]
  · rw [ofJson_of_kind_ne notObject, Except.error.injEq]
    refine ⟨fun h => .inl ⟨notObject, h.symm⟩, fun h => ?_⟩
    obtain ⟨-, rfl⟩ | ⟨members, rfl, -⟩ := h
    · rfl
    · exact absurd rfl notObject

/-- Data is read from the objects whose members are all flat, and from nothing else.
Every member is then an entry; otherwise the least key that does not fit is named, and
no template is looked at. -/
theorem ofJson_exactly_flat {v : Json} (ordered : v.Ordered) :
    ((∃ d, ofJson v = .ok d) ↔ ∃ members, v = .obj members ∧ ∀ m ∈ members, m.2.Flat) ∧
    (∀ members d, v = .obj members → ofJson v = .ok d → d.keys = members.map Prod.fst ∧
      ∀ m ∈ members, ∃ b, Bindable.Reads m.2 b ∧ d.get? m.1 = some b) ∧
    (∀ e, ofJson v = .error e ↔ v.kind ≠ .object ∧ e = .invalidValue "" v.kind ∨
      ∃ members, v = .obj members ∧ LeastFault members e) ∧
    ∀ (style : PlaceholderStyle) (template : String),
      (∀ e, ofJson v = .error e → Binding.bindJson style template v = .error e) ∧
      ∀ d, ofJson v = .ok d →
        Binding.bindJson style template v = Binding.bind style template d := by
  refine ⟨exists_ofJson_iff v, ?_, ofJson_eq_error_iff ordered, ?_⟩
  · rintro members d rfl h
    cases ordered with
    | obj _ ascending _ => exact ofJson_obj_of_ok ascending h
  · intro style template
    refine ⟨fun e h => ?_, fun d h => ?_⟩
    · rw [Binding.bindJson, h, error_bind]
    · rw [Binding.bindJson, h, ok_bind]

/-- Data in a JSON text: reading puts the keys in order, so nothing is asked of the text. -/
theorem ofJson_of_read {text : String} {v : Json} (h : Json.Reader.read .ok text = .ok v) :
    (∃ members d, v = .obj members ∧ (∀ m ∈ members, m.2.Flat) ∧ ofJson v = .ok d ∧
      d.keys = members.map Prod.fst ∧
      ∀ m ∈ members, ∃ b, Bindable.Reads m.2 b ∧ d.get? m.1 = some b) ∨
    ∃ e, ofJson v = .error e ∧ (v.kind ≠ .object ∧ e = .invalidValue "" v.kind ∨
      ∃ members, v = .obj members ∧ LeastFault members e) := by
  have ordered := Json.Reader.ordered_of_read h
  cases result : ofJson v with
  | error e => exact .inr ⟨e, rfl, (ofJson_eq_error_iff ordered e).1 result⟩
  | ok d =>
    obtain ⟨members, rfl, flat⟩ := (exists_ofJson_iff v).1 ⟨d, result⟩
    cases ordered with
    | obj _ ascending _ =>
      obtain ⟨keys, entries⟩ := ofJson_obj_of_ok ascending result
      exact .inl ⟨members, d, rfl, flat, rfl, keys, entries⟩

def user : Json := .obj [("id", .bool true), ("tags", .arr [.str "new", .null])]

def nested : Json :=
  .obj [("id", .null), ("tags", .arr [.str "new", .arr [], .obj []]), ("user", user)]

theorem user_ordered : user.Ordered := by
  apply Json.Ordered.obj _ (by decide)
  simp only [List.forall_mem_cons]
  refine ⟨.bool true, .arr _ ?_, by simp⟩
  simp only [List.forall_mem_cons]
  exact ⟨.str "new", .null, by simp⟩

theorem nested_ordered : nested.Ordered := by
  apply Json.Ordered.obj _ (by decide)
  simp only [List.forall_mem_cons]
  refine ⟨.null, .arr _ ?_, user_ordered, by simp⟩
  simp only [List.forall_mem_cons]
  exact ⟨.str "new", .arr _ (by simp), .obj _ .nil (by simp), by simp⟩

theorem ofJson_exactly_flat_user :
    user.Ordered ∧ nested.Ordered ∧ (∃ d, ofJson user = .ok d ∧ d.keys = ["id", "tags"]) ∧
      Binding.bindJson .question "\x7b" nested = .error (.invalidValue "tags" .array) := by
  refine ⟨user_ordered, nested_ordered, ?_, ?_⟩
  · obtain ⟨accepted, entries, -, -⟩ := ofJson_exactly_flat user_ordered
    have flat : ∃ members, user = .obj members ∧ ∀ m ∈ members, m.2.Flat := by
      refine ⟨_, rfl, ?_⟩
      simp only [List.forall_mem_cons]
      refine ⟨.plain (by decide), .list ?_, by simp⟩
      simp only [List.forall_mem_cons]
      exact ⟨by decide, by decide, by simp⟩
    obtain ⟨d, hd⟩ := accepted.2 flat
    exact ⟨d, hd, (entries _ d rfl hd).1⟩
  · obtain ⟨-, -, rejected, passed⟩ := ofJson_exactly_flat nested_ordered
    have fault : LeastFault [("id", .null), ("tags", .arr [.str "new", .arr [], .obj []]),
        ("user", user)] (.invalidValue "tags" .array) := by
      refine ⟨("tags", _), by simp, .item ⟨[.str "new"], .arr [], [.obj []], rfl, ?_, ?_⟩, ?_⟩
      · intro v hv e h
        obtain rfl := List.mem_singleton.1 hv
        exact h.1 (by decide)
      · exact ⟨by decide, rfl⟩
      · simp only [List.forall_mem_cons]
        exact ⟨fun _ => .plain (by decide), fun below => absurd below (String.lt_irrefl _),
          fun below => absurd below (by decide), by simp⟩
    exact (passed .question "\x7b").1 _ ((rejected _).2 (.inr ⟨_, rfl, fault⟩))

end Mapping

end SqlMapper

import SqlMapper.Binding
import SqlMapper.Proofs.Fragment
import SqlMapper.Proofs.Result

/-!
Templates with their entries. A template in which every brace closes, every
expression is written about a flag of the table, and every entry is there is a
list of slots and a tail. Binding succeeds on exactly these templates, and what
it gives is written down from the slots: their texts and fragments in order, each
marker counted through all parameters before it.
-/

namespace SqlMapper

structure Slot where
  before : List Char
  expression : Expression
  value : Bindable

namespace Slot

def fragment (s : Slot) : Fragment := s.expression.flag.fragment s.expression.identifier s.value

def values (s : Slot) : List Scalar := s.fragment.values

/-- The fragment in a statement with `bound` parameters before it: spliced text is
copied, and a marker has the number of its parameter if markers are numbered. -/
def written (style : PlaceholderStyle) (bound : Nat) (s : Slot) : List Char :=
  if s.expression.flag.binds then
    match style with
    | .question => s.fragment.text.toList
    | .dollar => replaceMarkers (fun j => (PlaceholderStyle.marker .dollar (bound + j)).toList)
        s.fragment.text.toList
  else s.fragment.text.toList

def markerCount (s : Slot) : Nat :=
  if s.expression.flag.binds then s.fragment.text.toList.count '?' else 0

theorem values_eq (s : Slot) : s.values = s.expression.values s.value := rfl

theorem written_eq (style : PlaceholderStyle) (bound : Nat) (s : Slot) :
    String.ofList (s.written style bound) = s.expression.render style bound s.value := by
  simp only [written, Expression.render]
  split
  · cases style with
    | question => exact String.ofList_toList
    | dollar => rw [PlaceholderStyle.render_eq_replaceMarkers]; rfl
  · exact String.ofList_toList

theorem markerCount_eq {s : Slot} (h : isIdentifier s.expression.identifier = true) :
    s.markerCount = s.values.length := by
  rw [markerCount]
  split
  · rename_i hb
    exact Flag.count_fragment hb h s.value
  · rename_i hb
    rw [values, fragment, Flag.values_eq_nil_of_not_binds (by simpa using hb)]
    rfl

end Slot

structure Filled where
  slots : List Slot
  tail : List Char

namespace Filled

def template (f : Filled) : Template :=
  f.slots.foldr (fun s rest => .piece s.before s.expression.chars rest) (.plain f.tail)

def paramsBefore (f : Filled) (i : Nat) : List Scalar := (f.slots.take i).flatMap Slot.values

def params (f : Filled) : List Scalar := f.slots.flatMap Slot.values

def sql (style : PlaceholderStyle) (bound : Nat) (f : Filled) : String :=
  String.ofList ((f.slots.mapIdx fun i s =>
    s.before ++ s.written style (bound + (f.paramsBefore i).length)).flatten ++ f.tail)

def query (style : PlaceholderStyle) (bound : Nat) (f : Filled) : Query :=
  ⟨f.sql style bound, f.params⟩

structure FoundIn (data : Mapping) (f : Filled) : Prop where
  identifiers : ∀ s ∈ f.slots, isIdentifier s.expression.identifier = true
  entries : ∀ s ∈ f.slots, data.get? s.expression.identifier = some s.value

structure Fills (source : String) (data : Mapping) (f : Filled) : Prop extends f.FoundIn data where
  proper : f.template.Proper
  source_eq : f.template.source = source

theorem template_nil (tail : List Char) : template ⟨[], tail⟩ = .plain tail := rfl

theorem template_cons (s : Slot) (slots : List Slot) (tail : List Char) :
    template ⟨s :: slots, tail⟩ = .piece s.before s.expression.chars (template ⟨slots, tail⟩) := rfl

theorem query_nil (style : PlaceholderStyle) (bound : Nat) (tail : List Char) :
    query style bound ⟨[], tail⟩ = ⟨String.ofList tail, []⟩ := rfl

theorem query_cons (style : PlaceholderStyle) (bound : Nat) (s : Slot) (slots : List Slot)
    (tail : List Char) :
    query style bound ⟨s :: slots, tail⟩ =
      ⟨String.ofList s.before ++ s.expression.render style bound s.value, s.values⟩ ++
        query style (bound + s.values.length) ⟨slots, tail⟩ := by
  have count : ∀ i, bound + (paramsBefore ⟨s :: slots, tail⟩ (i + 1)).length =
      bound + s.values.length + (paramsBefore ⟨slots, tail⟩ i).length := by
    intro i
    simp only [paramsBefore, List.take_succ_cons, List.flatMap_cons, List.length_append]
    omega
  have first : bound + (paramsBefore ⟨s :: slots, tail⟩ 0).length = bound := rfl
  have text : sql style bound ⟨s :: slots, tail⟩ =
      String.ofList s.before ++ s.expression.render style bound s.value ++
        sql style (bound + s.values.length) ⟨slots, tail⟩ := by
    simp only [sql, List.mapIdx_cons, count, first, List.flatten_cons, List.append_assoc,
      String.ofList_append, Slot.written_eq]
    simp only [String.append_assoc]
  show Query.mk _ _ = Query.mk _ _
  rw [text]
  rfl

theorem foundIn_cons {data : Mapping} {s : Slot} {slots : List Slot} {tail : List Char} :
    FoundIn data ⟨s :: slots, tail⟩ ↔
      (isIdentifier s.expression.identifier = true ∧
        data.get? s.expression.identifier = some s.value) ∧ FoundIn data ⟨slots, tail⟩ := by
  refine ⟨fun h => ?_, fun h => ?_⟩
  · have identifiers := List.forall_mem_cons.1 h.identifiers
    have entries := List.forall_mem_cons.1 h.entries
    exact ⟨⟨identifiers.1, entries.1⟩, identifiers.2, entries.2⟩
  · obtain ⟨⟨identifier, entry⟩, identifiers, entries⟩ := h
    exact ⟨List.forall_mem_cons.2 ⟨identifier, identifiers⟩, List.forall_mem_cons.2 ⟨entry, entries⟩⟩

end Filled

theorem Filled.Fills.parse_eq {source : String} {data : Mapping} {f : Filled} (h : f.Fills source data) :
    Template.parse source = f.template := by
  rw [← h.source_eq, Template.parse, Template.source, String.toList_ofList,
    Template.ofChars_chars h.proper]

theorem resolve_eq_ok_iff (data : Mapping) (raw : List Char) (e : Expression) (value : Bindable) :
    resolve data raw = .ok (e, value) ↔
      isIdentifier e.identifier = true ∧ raw = e.chars ∧ data.get? e.identifier = some value := by
  rw [← and_assoc, ← Expression.read?_eq_some_iff, resolve]
  cases hr : Expression.read? raw with
  | none => simp
  | some e' =>
    simp only [Option.some.injEq]
    cases hd : data.get? e'.identifier with
    | none =>
      simp only [reduceCtorEq, false_iff, not_and]
      rintro rfl
      simp [hd]
    | some value' =>
      simp only [Except.ok.injEq, Prod.mk.injEq]
      refine ⟨fun h => ?_, fun h => ?_⟩
      · obtain ⟨rfl, rfl⟩ := h
        exact ⟨rfl, hd⟩
      · obtain ⟨rfl, h⟩ := h
        exact ⟨rfl, by simpa [hd] using h⟩

theorem Template.byteLength_piece (text raw behind : List Char) :
    Text.byteLength (text ++ '\x7b' :: raw ++ '\x7d' :: behind) =
      Text.byteLength text + Text.byteLength raw + 2 + Text.byteLength behind := by
  have opening : Char.utf8Size '\x7b' = 1 := by decide
  have closing : Char.utf8Size '\x7d' = 1 := by decide
  simp only [Text.byteLength_append, Text.byteLength_cons, opening, closing]
  omega

theorem Template.bind_piece_of_ok {data : Mapping} {raw : List Char} {e : Expression}
    {value : Bindable} (h : resolve data raw = .ok (e, value)) (style : PlaceholderStyle)
    (whole : String) (bound consumed : Nat) (text : List Char) (rest : Template) :
    (piece text raw rest).bind style data whole bound consumed =
      (rest.bind style data whole (bound + (e.values value).length)
        (consumed + Text.byteLength text + Text.byteLength raw + 2)).map
          (⟨String.ofList text ++ e.render style bound value, e.values value⟩ ++ ·) := by
  rw [bind, h]
  rfl

theorem Template.bind_piece_of_error {data : Mapping} {raw : List Char} {e : BindingError}
    (h : resolve data raw = .error e) (style : PlaceholderStyle) (whole : String)
    (bound consumed : Nat) (text : List Char) (rest : Template) :
    (piece text raw rest).bind style data whole bound consumed = .error e := by
  rw [bind, h]
  rfl

theorem Template.bind_piece_eq_ok_iff (style : PlaceholderStyle) (data : Mapping) (whole : String)
    (bound consumed : Nat) (text raw : List Char) (rest : Template) (q : Query) :
    (piece text raw rest).bind style data whole bound consumed = .ok q ↔
      ∃ e value after, resolve data raw = .ok (e, value) ∧
        rest.bind style data whole (bound + (e.values value).length)
          (consumed + Text.byteLength text + Text.byteLength raw + 2) = .ok after ∧
        q = ⟨String.ofList text ++ e.render style bound value, e.values value⟩ ++ after := by
  rw [Template.bind, SqlMapper.bind_eq_ok_iff]
  refine ⟨fun h => ?_, fun h => ?_⟩
  · obtain ⟨⟨e, value⟩, hr, h⟩ := h
    obtain ⟨after, hafter, h⟩ := SqlMapper.bind_eq_ok_iff.1 h
    exact ⟨e, value, after, hr, hafter, (Except.ok.inj h).symm⟩
  · obtain ⟨e, value, after, hr, hafter, rfl⟩ := h
    exact ⟨(e, value), hr, SqlMapper.bind_eq_ok_iff.2 ⟨after, hafter, rfl⟩⟩

theorem Template.bind_eq_ok_iff (style : PlaceholderStyle) (data : Mapping) (whole : String)
    (bound consumed : Nat) (t : Template) (q : Query) :
    t.bind style data whole bound consumed = .ok q ↔
      ∃ f : Filled, f.template = t ∧ f.FoundIn data ∧ q = f.query style bound := by
  induction t generalizing bound consumed q with
  | plain text =>
    refine ⟨fun h => ?_, fun h => ?_⟩
    · cases h
      exact ⟨⟨[], text⟩, rfl, ⟨by simp, by simp⟩, rfl⟩
    · obtain ⟨⟨slots, tail⟩, ht, -, rfl⟩ := h
      cases slots with
      | nil =>
        cases ht
        rfl
      | cons s slots => cases ht
  | unclosed text after =>
    refine ⟨fun h => ?_, fun h => ?_⟩
    · cases h
    · obtain ⟨⟨slots, tail⟩, ht, -⟩ := h
      cases slots <;> cases ht
  | piece text expression rest ih =>
    rw [bind_piece_eq_ok_iff]
    refine ⟨fun h => ?_, fun h => ?_⟩
    · obtain ⟨e, value, after, hr, hafter, rfl⟩ := h
      obtain ⟨hi, rfl, hv⟩ := (resolve_eq_ok_iff _ _ _ _).1 hr
      obtain ⟨⟨slots, tail⟩, rfl, hf, rfl⟩ := (ih _ _ _).1 hafter
      refine ⟨⟨⟨text, e, value⟩ :: slots, tail⟩, rfl, Filled.foundIn_cons.2 ⟨⟨hi, hv⟩, hf⟩, ?_⟩
      exact (Filled.query_cons style bound ⟨text, e, value⟩ slots tail).symm
    · obtain ⟨⟨slots, tail⟩, ht, hf, rfl⟩ := h
      cases slots with
      | nil => cases ht
      | cons s slots =>
        rw [Filled.template_cons] at ht
        cases ht
        obtain ⟨⟨hi, hv⟩, hf⟩ := Filled.foundIn_cons.1 hf
        refine ⟨s.expression, s.value, _, (resolve_eq_ok_iff _ _ _ _).2 ⟨hi, rfl, hv⟩, ?_,
          Filled.query_cons style bound s slots tail⟩
        exact (ih _ _ _).2 ⟨⟨slots, tail⟩, rfl, hf, rfl⟩

namespace Binding

/-- Binding succeeds on the texts that slots fill, with the statement of the slots. -/
theorem bindFrom_eq_ok_iff (style : PlaceholderStyle) (bound : Nat) (template : String)
    (data : Mapping) (q : Query) :
    bindFrom style bound template data = .ok q ↔
      ∃ f : Filled, f.Fills template data ∧ q = f.query style bound := by
  rw [bindFrom, Template.bind_eq_ok_iff]
  refine ⟨fun h => ?_, fun h => ?_⟩
  · obtain ⟨f, ht, hf, rfl⟩ := h
    have proper : f.template.Proper := by
      rw [ht]
      exact Template.proper_ofChars _
    have source : f.template.source = template := by
      rw [ht, Template.source, Template.parse, Template.chars_ofChars, String.ofList_toList]
    exact ⟨f, ⟨hf, proper, source⟩, rfl⟩
  · obtain ⟨f, ⟨hf, proper, source⟩, rfl⟩ := h
    exact ⟨f, (Filled.Fills.parse_eq ⟨hf, proper, source⟩).symm, hf, rfl⟩

end Binding

theorem Template.eq_of_source_eq {t t' : Template} (h : t.Proper) (h' : t'.Proper)
    (hs : t.source = t'.source) : t = t' := by
  have chars : t.chars = t'.chars := String.ofList_inj.1 hs
  rw [← ofChars_chars h, ← ofChars_chars h', chars]

theorem Filled.params_getElem? (f : Filled) {i : Nat} {s : Slot} (hs : f.slots[i]? = some s)
    {j : Nat} {v : Scalar} (hv : s.values[j]? = some v) :
    f.params[(f.paramsBefore i).length + j]? = some v := by
  obtain ⟨slots, tail⟩ := f
  have split : params ⟨slots, tail⟩ =
      paramsBefore ⟨slots, tail⟩ i ++ (slots.drop i).flatMap Slot.values := by
    rw [params, paramsBefore, ← List.flatMap_append, List.take_append_drop]
  obtain ⟨hi, hs⟩ := List.getElem?_eq_some_iff.1 hs
  obtain ⟨hj, -⟩ := List.getElem?_eq_some_iff.1 hv
  rw [split, List.getElem?_append_right (by omega), List.drop_eq_getElem_cons hi, hs,
    List.flatMap_cons, Nat.add_sub_cancel_left, List.getElem?_append_left hj, hv]

/-- A template text is read in one way at most. Binding it succeeds if and only
if slots with entries in the data fill it, and the statement is then that of the
slots: their texts and fragments, with every marker in the place of its
parameter. -/
theorem Binding.bindFrom_ok_iff_fills (style : PlaceholderStyle) (bound : Nat) (template : String)
    (data : Mapping) :
    (∀ t t' : Template, t.Proper → t'.Proper → t.source = template → t'.source = template →
      t = t') ∧
    (∀ q, bindFrom style bound template data = .ok q ↔
      ∃ f : Filled, f.Fills template data ∧ q.sql = f.sql style bound ∧ q.params = f.params) ∧
    ∀ f : Filled, f.Fills template data → ∀ i s, f.slots[i]? = some s →
      s.markerCount = s.values.length ∧
        ∀ j v, s.values[j]? = some v → f.params[(f.paramsBefore i).length + j]? = some v := by
  refine ⟨?_, ?_, ?_⟩
  · intro t t' h h' hs hs'
    exact Template.eq_of_source_eq h h' (hs.trans hs'.symm)
  · intro q
    rw [bindFrom_eq_ok_iff]
    refine ⟨fun h => ?_, fun h => ?_⟩
    · obtain ⟨f, hf, rfl⟩ := h
      exact ⟨f, hf, rfl, rfl⟩
    · obtain ⟨f, hf, hsql, hparams⟩ := h
      obtain ⟨sql, params⟩ := q
      cases hsql
      cases hparams
      exact ⟨f, hf, rfl⟩
  · intro f hf i s hs
    have mem : s ∈ f.slots := List.mem_of_getElem? hs
    exact ⟨Slot.markerCount_eq (hf.identifiers s mem), fun j v hv => f.params_getElem? hs hv⟩

end SqlMapper

import SqlMapper.Statement
import SqlMapper.Proofs.Filled

/-!
Templates that are put together from texts and expressions, and what the
expressions of generated statements become: the table is spliced, a column is
compared with the marker of its value, and a list of values is a list of markers.
-/

namespace SqlMapper

def PlaceholderStyle.markerList (style : PlaceholderStyle) (bound n : Nat) : String :=
  String.intercalate ", " ((List.range n).map fun i => style.marker (bound + i + 1))

theorem Query.mk_append (a b : String) (p r : List Scalar) :
    (⟨a, p⟩ ++ ⟨b, r⟩ : Query) = ⟨a ++ b, p ++ r⟩ := rfl

namespace Statement

theorem isIdentifier_tableEntry : isIdentifier tableEntry = true := by decide

theorem tableData_get? (info : Metadata) :
    (tableData info).get? tableEntry = some (.one (.text info.tableName)) := by
  rw [tableData, Fields.get?_insert, if_pos rfl]
  rfl

end Statement

namespace Filled

theorem source_nil (tail : String) : (template ⟨[], tail.toList⟩).source = tail := by
  rw [template_nil, Template.source, Template.chars, String.ofList_toList]

theorem source_cons (before : String) (e : Expression) (value : Bindable) (slots : List Slot)
    (tail : List Char) :
    (template ⟨⟨before.toList, e, value⟩ :: slots, tail⟩).source =
      before ++ Statement.braced (String.ofList e.chars) ++ (template ⟨slots, tail⟩).source := by
  apply String.toList_inj.1
  simp [template_cons, Template.source, Template.chars, Statement.braced]

theorem proper_template {f : Filled} (texts : ∀ s ∈ f.slots, '\x7b' ∉ s.before)
    (identifiers : ∀ s ∈ f.slots, isIdentifier s.expression.identifier = true)
    (tail : '\x7b' ∉ f.tail) : f.template.Proper := by
  obtain ⟨slots, rest⟩ := f
  induction slots with
  | nil => exact tail
  | cons s slots ih =>
    have htexts := List.forall_mem_cons.1 texts
    have hidentifiers := List.forall_mem_cons.1 identifiers
    have hrest := ih htexts.2 hidentifiers.2 tail
    exact ⟨htexts.1, Expression.brace_notMem_chars hidentifiers.1, hrest⟩

theorem bind_eq_query {f : Filled} {source : String} {data : Mapping}
    (texts : ∀ s ∈ f.slots, '\x7b' ∉ s.before) (tail : '\x7b' ∉ f.tail) (found : f.FoundIn data)
    (hsource : source = f.template.source) (style : PlaceholderStyle) :
    Binding.bind style source data = .ok (f.query style 0) := by
  have fills : f.Fills source data :=
    ⟨found, proper_template texts found.identifiers tail, hsource.symm⟩
  exact (Binding.bindFrom_eq_ok_iff style 0 source data _).2 ⟨f, fills, rfl⟩

end Filled

namespace Expression

theorem ofList_chars_splice (identifier : String) :
    String.ofList (chars ⟨.splice, identifier⟩) = "*" ++ identifier := by
  apply String.toList_inj.1
  simp [chars, Flag.opening, Flag.closing]

theorem ofList_chars_equal (identifier : String) :
    String.ofList (chars ⟨.equal, identifier⟩) = "=" ++ identifier := by
  apply String.toList_inj.1
  simp [chars, Flag.opening, Flag.closing]

theorem ofList_chars_list (identifier : String) :
    String.ofList (chars ⟨.list, identifier⟩) = identifier := by
  apply String.toList_inj.1
  simp [chars, Flag.opening, Flag.closing]

theorem render_splice_one (identifier : String) (v : Scalar) (style : PlaceholderStyle)
    (bound : Nat) : render ⟨.splice, identifier⟩ style bound (.one v) = v.literal := by
  show String.intercalate ", " [v.literal] = v.literal
  exact String.intercalate_singleton

theorem render_splice_many (identifier : String) (vs : List Scalar) (style : PlaceholderStyle)
    (bound : Nat) :
    render ⟨.splice, identifier⟩ style bound (.many vs) =
      String.intercalate ", " (vs.map Scalar.literal) := rfl

theorem values_splice (identifier : String) (value : Bindable) :
    values ⟨.splice, identifier⟩ value = [] := rfl

theorem render_equal {identifier : String} (h : isIdentifier identifier = true) (v : Scalar)
    (style : PlaceholderStyle) (bound : Nat) :
    render ⟨.equal, identifier⟩ style bound (.one v) =
      identifier ++ " = " ++ style.marker (bound + 1) := by
  have plain : '?' ∉ (identifier ++ " = ").toList := by
    have hq := question_notMem_of_isIdentifier h
    simp [hq]
  have text : identifier ++ " " ++ "=" ++ " ?" = identifier ++ " = " ++ "?" := by
    simp only [String.append_assoc]
    rfl
  show style.render bound (identifier ++ " " ++ "=" ++ " ?") = _
  rw [text, PlaceholderStyle.render_append, PlaceholderStyle.render_eq_self style bound plain,
    List.count_eq_zero.2 plain, Nat.add_zero, PlaceholderStyle.render_marker]

theorem values_equal (identifier : String) (v : Scalar) :
    values ⟨.equal, identifier⟩ (.one v) = [v] := rfl

end Expression

theorem render_markers (style : PlaceholderStyle) (bound : Nat) (values : List Scalar) :
    style.render bound (markers values) = style.markerList bound values.length := by
  induction values generalizing bound with
  | nil => exact PlaceholderStyle.render_eq_self style bound (by decide)
  | cons v vs ih =>
    cases vs with
    | nil => exact PlaceholderStyle.render_marker style bound
    | cons w vs =>
      have head : markers (v :: w :: vs) = "?" ++ (", " ++ markers (w :: vs)) := by
        rw [markers, List.map_cons, List.map_cons, String.intercalate_cons_cons,
          String.append_assoc]
        rfl
      have comma : '?' ∉ ", ".toList := by decide
      have one : "?".toList.count '?' = 1 := by decide
      rw [head, PlaceholderStyle.render_append, PlaceholderStyle.render_append, one,
        PlaceholderStyle.render_eq_self style _ comma, PlaceholderStyle.render_marker,
        List.count_eq_zero.2 comma, Nat.add_zero, ih]
      have shift : ∀ i, bound + 1 + i + 1 = bound + (i + 1) + 1 := fun i => by omega
      simp [PlaceholderStyle.markerList, List.range_succ_eq_map, shift, Function.comp_def,
        String.append_assoc]

namespace Expression

theorem render_list (identifier : String) (vs : List Scalar) (style : PlaceholderStyle)
    (bound : Nat) :
    render ⟨.list, identifier⟩ style bound (.many vs) = style.markerList bound vs.length :=
  render_markers style bound vs

theorem values_list (identifier : String) (vs : List Scalar) :
    values ⟨.list, identifier⟩ (.many vs) = vs := rfl

end Expression

end SqlMapper

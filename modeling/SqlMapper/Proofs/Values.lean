import SqlMapper.Proofs.Noninterference

/-!
What a statement reads of its data. Where a flag has one rule for a single value and
another for a list, a list of one is read as its value. So binding sees no more of the
data than the values under the identifiers that are referenced: on data that agree
there it gives the same statement, or fails with the same error.
-/

namespace SqlMapper

/-- No flag tells entries of the same values apart. -/
theorem Flag.fragment_congr {v w : Bindable} (h : v.values = w.values) (f : Flag)
    (identifier : String) : f.fragment identifier v = f.fragment identifier w := by
  cases f with
  | list => simp only [fragment, direct_eq, h]
  | equal | unequal => simp only [fragment, membership_eq, h]
  | _ => simp only [fragment, h]

namespace Template

def SameValues (t : Template) (d d' : Mapping) : Prop :=
  t.Related (fun _ v w => v.values = w.values) d d'

theorem sameValues_iff {t : Template} {d d' : Mapping} :
    t.SameValues d d' ↔ ∀ e ∈ t.references,
      (d.get? e.identifier).map Bindable.values = (d'.get? e.identifier).map Bindable.values := by
  have entries (x y : Option Bindable) : Option.Rel (fun v w => v.values = w.values) x y ↔
      x.map Bindable.values = y.map Bindable.values := by
    cases x <;> cases y <;> simp
  simp only [SameValues, Related, entries]

theorem sameValues_insert (t : Template) (d : Mapping) (identifier : String) {v w : Bindable}
    (h : v.values = w.values) : t.SameValues (d.insert identifier v) (d.insert identifier w) := by
  rw [sameValues_iff]
  intro e _
  rw [Fields.get?_insert, Fields.get?_insert]
  split
  · rw [Option.map_some, Option.map_some, h]
  · rfl

theorem sameValues_insert_of_unreferenced {t : Template} {identifier : String}
    (h : ∀ e ∈ t.references, e.identifier ≠ identifier) (d : Mapping) (value : Bindable) :
    t.SameValues (d.insert identifier value) d := by
  rw [sameValues_iff]
  intro e he
  rw [Fields.get?_insert, if_neg (h e he)]

theorem bind_congr {t : Template} {d d' : Mapping} (h : t.SameValues d d')
    (style : PlaceholderStyle) (whole : String) (bound consumed : Nat) :
    t.bind style d whole bound consumed = t.bind style d' whole bound consumed := by
  induction t generalizing bound consumed with
  | plain text => rfl
  | unclosed text rest => rfl
  | piece text raw rest ih =>
    obtain ⟨e, hd, hd'⟩ | ⟨e, v, w, hd, hd', same⟩ := h.resolve
    · rw [bind_piece_of_error hd, bind_piece_of_error hd']
    · have fragments := Flag.fragment_congr same e.flag e.identifier
      have values : e.values v = e.values w := congrArg Fragment.values fragments
      have render : e.render style bound v = e.render style bound w := by
        simp only [Expression.render, fragments]
      rw [bind_piece_of_ok hd, bind_piece_of_ok hd', values, render, ih h.rest]

end Template

namespace Binding

/-- Only the values under the identifiers that are referenced matter: a list of one
may take the place of its value, and what is not referenced may be anything. -/
theorem bindFrom_same_values (style : PlaceholderStyle) (bound : Nat) (template : String) :
    (∀ d d' : Mapping, (Template.parse template).SameValues d d' →
      bindFrom style bound template d = bindFrom style bound template d') ∧
    (∀ (d : Mapping) (identifier : String) (v : Scalar),
      bindFrom style bound template (d.insert identifier (.one v)) =
        bindFrom style bound template (d.insert identifier (.many [v]))) ∧
    ∀ (d : Mapping) (identifier : String) (value : Bindable),
      (∀ e ∈ (Template.parse template).references, e.identifier ≠ identifier) →
        bindFrom style bound template (d.insert identifier value) =
          bindFrom style bound template d := by
  have congr (d d' : Mapping) (h : (Template.parse template).SameValues d d') :
      bindFrom style bound template d = bindFrom style bound template d' :=
    Template.bind_congr h style template bound 0
  refine ⟨congr, ?_, ?_⟩
  · intro d identifier v
    exact congr _ _ (Template.sameValues_insert _ d identifier rfl)
  · intro d identifier value unreferenced
    exact congr _ _ (Template.sameValues_insert_of_unreferenced unreferenced d value)

def userPage : String :=
  "select \x7b*columns\x7d from users where \x7b!id\x7d and (\x7bname%\x7d or \x7b>age\x7d) " ++
    "limit \x7blimit\x7d"

def userPageText : String :=
  "select id, name from users where id != $4 and (name like $5 or (age > $6 or age > $7)) limit $8"

def userPageData : Mapping :=
  ⟨[("age", .many [.int 18, .int 65]), ("columns", .one (.text "id, name")),
    ("id", .one (.int 7)), ("limit", .many [.int 5]), ("name", .one (.text "Ann"))], by decide⟩

def userPageLists : Mapping :=
  ⟨[("age", .many [.int 18, .int 65]), ("columns", .many [.text "id, name"]),
    ("draft", .many [.null, .bool true]), ("id", .many [.int 7]), ("limit", .one (.int 5)),
    ("name", .many [.text "Ann"])], by decide⟩

theorem bindFrom_userPage_same_values :
    (Template.parse userPage).SameValues userPageData userPageLists ∧
      (bindFrom .dollar 3 userPage userPageData).map Query.sql = .ok userPageText ∧
      bindFrom .dollar 3 userPage userPageData = bindFrom .dollar 3 userPage userPageLists := by
  have references : (Template.parse userPage).references =
      [⟨.splice, "columns"⟩, ⟨.unequal, "id"⟩, ⟨.startingWith, "name"⟩, ⟨.above, "age"⟩,
        ⟨.list, "limit"⟩] := by
    decide +kernel
  have same : (Template.parse userPage).SameValues userPageData userPageLists := by
    rw [Template.sameValues_iff, references]
    simp only [List.forall_mem_cons]
    exact ⟨rfl, rfl, rfl, rfl, rfl, by simp⟩
  have text : (bindFrom .dollar 3 userPage userPageData).map Query.sql = .ok userPageText := by
    decide +kernel
  exact ⟨same, text, (bindFrom_same_values .dollar 3 userPage).1 _ _ same⟩

end Binding

end SqlMapper

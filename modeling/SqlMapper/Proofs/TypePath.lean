import SqlMapper.Naming

/-!
Paths of types, as they are written: segments joined by `::`, each of them a name that may
carry arguments in angle brackets, which are paths again. The simple name of a written path
is the name of the first segment with arguments, and of the last segment only when there is
none before it (`simpleName_text`).
-/

namespace SqlMapper.Naming

@[ext] structure Identifier where
  text : String
  nonempty : text ≠ ""
  plain : ∀ c ∈ text.toList, c ∉ [':', '<', '>', ',']

def Identifier.chars (name : Identifier) : List Char := name.text.toList

theorem Identifier.colon_notMem (name : Identifier) : ':' ∉ name.chars :=
  fun h => name.plain ':' h (by decide)

theorem Identifier.bracket_notMem (name : Identifier) : '<' ∉ name.chars :=
  fun h => name.plain '<' h (by decide)

inductive TypePath where
  | last (name : Identifier) (arguments : Option (List TypePath))
  | qualified (name : Identifier) (arguments : Option (List TypePath)) (rest : TypePath)

namespace TypePath

mutual

def chars (comma : List Char) : TypePath → List Char
  | .last name arguments => name.chars ++ bracketed comma arguments
  | .qualified name arguments rest =>
    name.chars ++ (bracketed comma arguments ++ ':' :: ':' :: chars comma rest)

def bracketed (comma : List Char) : Option (List TypePath) → List Char
  | none => []
  | some paths => '<' :: (joined comma paths ++ ['>'])

def joined (comma : List Char) : List TypePath → List Char
  | [] => []
  | p :: paths => chars comma p ++ (if paths.isEmpty then [] else comma) ++ joined comma paths

end

def text (comma : List Char) (p : TypePath) : String := String.ofList (p.chars comma)

def lastName : TypePath → Identifier
  | .last name _ => name
  | .qualified _ _ rest => rest.lastName

/-- The name of the first segment with arguments, or else of the last one. -/
def shownName : TypePath → Identifier
  | .last name _ => name
  | .qualified name (some _) _ => name
  | .qualified _ none rest => rest.shownName

def Direct : TypePath → Prop
  | .last _ _ => True
  | .qualified _ arguments rest => arguments = none ∧ rest.Direct

def opening : TypePath → List Char
  | .last name _ => name.chars
  | .qualified name (some _) _ => name.chars
  | .qualified name none rest => name.chars ++ ':' :: ':' :: rest.opening

theorem takeWhile_name (name : Identifier) (cs : List Char) :
    (name.chars ++ cs).takeWhile (· != '<') = name.chars ++ cs.takeWhile (· != '<') := by
  apply List.takeWhile_append_of_pos
  intro c hc
  rw [bne_iff_ne]
  rintro rfl
  exact name.bracket_notMem hc

theorem takeWhile_bracketed (comma : List Char) (paths : List TypePath) (cs : List Char) :
    (bracketed comma (some paths) ++ cs).takeWhile (· != '<') = [] := by
  rw [bracketed]
  rfl

theorem takeWhile_chars (comma : List Char) :
    ∀ p : TypePath, (p.chars comma).takeWhile (· != '<') = p.opening
  | .last name none => by
    rw [chars, takeWhile_name, bracketed, opening, List.takeWhile_nil, List.append_nil]
  | .last name (some paths) => by
    rw [chars, takeWhile_name, ← List.append_nil (bracketed _ _), takeWhile_bracketed, opening,
      List.append_nil]
  | .qualified name (some paths) rest => by
    rw [chars, takeWhile_name, takeWhile_bracketed, opening, List.append_nil]
  | .qualified name none rest => by
    rw [chars, takeWhile_name, bracketed, opening, List.nil_append, ← takeWhile_chars comma rest]
    rfl

end TypePath

theorem afterLastSeparator_cons (c : Char) (cs : List Char) :
    afterLastSeparator (c :: cs) = (afterLastSeparator cs).or
      (match cs with
        | [] => none
        | d :: rest => if c = ':' ∧ d = ':' then some rest else none) := by
  cases cs with
  | nil => rfl
  | cons d rest =>
    rw [afterLastSeparator]
    cases afterLastSeparator (d :: rest) <;> rfl

theorem afterLastSeparator_skip {c : Char} {cs : List Char} (h : c ≠ ':' ∨ cs.head? ≠ some ':') :
    afterLastSeparator (c :: cs) = afterLastSeparator cs := by
  rw [afterLastSeparator_cons]
  cases cs with
  | nil => rfl
  | cons d rest =>
    have apart : ¬(c = ':' ∧ d = ':') := by
      rintro ⟨rfl, rfl⟩
      simp at h
    show Option.or _ (if c = ':' ∧ d = ':' then some rest else none) = _
    rw [if_neg apart, Option.or_none]

theorem afterLastSeparator_append {before : List Char} (h : ':' ∉ before) (cs : List Char) :
    afterLastSeparator (before ++ cs) = afterLastSeparator cs := by
  induction before with
  | nil => rfl
  | cons c before ih =>
    rw [List.mem_cons, not_or] at h
    rw [List.cons_append, afterLastSeparator_skip (.inl (Ne.symm h.1)), ih h.2]

theorem afterLastSeparator_separator {cs : List Char} (h : cs.head? ≠ some ':') :
    afterLastSeparator (':' :: ':' :: cs) = some ((afterLastSeparator cs).getD cs) := by
  rw [afterLastSeparator_cons, afterLastSeparator_skip (.inr h)]
  show (afterLastSeparator cs).or (some cs) = _
  cases afterLastSeparator cs <;> rfl

namespace TypePath

theorem head?_opening_ne (p : TypePath) : p.opening.head? ≠ some ':' := by
  have named (name : Identifier) (cs : List Char) : (name.chars ++ cs).head? ≠ some ':' := by
    have nonempty : name.chars ≠ [] := by simpa [Identifier.chars] using name.nonempty
    obtain ⟨c, rest, split⟩ := List.exists_cons_of_ne_nil nonempty
    rw [split]
    intro h
    apply name.colon_notMem
    rw [split, ← Option.some.inj h]
    exact List.mem_cons_self
  cases p with
  | last name arguments => simpa [opening] using named name []
  | qualified name arguments rest =>
    cases arguments with
    | none => exact named name _
    | some paths => simpa [opening] using named name []

theorem afterLastSeparator_name (name : Identifier) : afterLastSeparator name.chars = none := by
  rw [← List.append_nil name.chars, afterLastSeparator_append name.colon_notMem]
  rfl

theorem afterLastSeparator_opening :
    ∀ p : TypePath, (afterLastSeparator p.opening).getD p.opening = p.shownName.chars
  | .last name _ => by rw [opening, afterLastSeparator_name, shownName, Option.getD_none]
  | .qualified name (some _) _ => by
    rw [opening, afterLastSeparator_name, shownName, Option.getD_none]
  | .qualified name none rest => by
    rw [opening, afterLastSeparator_append name.colon_notMem,
      afterLastSeparator_separator rest.head?_opening_ne, Option.getD_some, shownName,
      afterLastSeparator_opening rest]

theorem simpleName_eq (comma : List Char) (p : TypePath) :
    simpleName (p.text comma) = p.shownName.text := by
  simp only [simpleName, text, String.toList_ofList, takeWhile_chars, afterLastSeparator_opening]
  rw [Identifier.chars, String.ofList_toList]

theorem shownName_of_direct : ∀ {p : TypePath}, p.Direct → p.shownName = p.lastName
  | .last _ _, _ => rfl
  | .qualified _ _ rest, h => by
    obtain ⟨rfl, later⟩ := h
    show rest.shownName = rest.lastName
    exact shownName_of_direct later

end TypePath

/-- The simple name of a written path is the name of its first segment with arguments, or of
the last segment if there is none. So it is the last name exactly when both are the same,
which they are if no segment before the last one has arguments. -/
theorem simpleName_text (comma : List Char) (p : TypePath) :
    simpleName (p.text comma) = p.shownName.text ∧
      (simpleName (p.text comma) = p.lastName.text ↔ p.shownName = p.lastName) ∧
      (p.Direct → simpleName (p.text comma) = p.lastName.text) := by
  have shown := p.simpleName_eq comma
  refine ⟨shown, ?_, fun direct => ?_⟩
  · rw [shown]
    exact ⟨fun same => Identifier.ext same, fun same => congrArg Identifier.text same⟩
  · rw [shown, TypePath.shownName_of_direct direct]

namespace TypePath

def app : Identifier := ⟨"app", by decide, by simp⟩

def page : Identifier := ⟨"Page", by decide, by simp⟩

def user : Identifier := ⟨"User", by decide, by simp⟩

def load : Identifier := ⟨"load", by decide, by simp⟩

def row : Identifier := ⟨"Row", by decide, by simp⟩

def pageOfUsers : TypePath :=
  .qualified app none (.last page (some [.qualified app none (.last user none)]))

def rowOfLoad : TypePath :=
  .qualified app none (.qualified page (some [.qualified app none (.last user none)])
    (.qualified load none (.last row none)))

end TypePath

theorem simpleName_text_page :
    TypePath.pageOfUsers.Direct ∧
      TypePath.pageOfUsers.text [',', ' '] = "app::Page<app::User>" ∧
      simpleName (TypePath.pageOfUsers.text [',', ' ']) = "Page" :=
  have direct : TypePath.pageOfUsers.Direct := ⟨rfl, trivial⟩
  ⟨direct, by decide, (simpleName_text _ TypePath.pageOfUsers).2.2 direct⟩

/-- Arguments before the last segment hide it, and the table is that of another type. -/
theorem simpleName_hidden_by_arguments :
    TypePath.rowOfLoad.text [',', ' '] = "app::Page<app::User>::load::Row" ∧
      TypePath.rowOfLoad.lastName.text = "Row" ∧
      simpleName "app::Page<app::User>::load::Row" = "Page" ∧
      tableName (simpleName "app::Page<app::User>::load::Row") = "pages" := by
  refine ⟨by decide, rfl, by decide +kernel, by decide +kernel⟩

end SqlMapper.Naming

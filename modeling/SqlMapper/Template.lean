import SqlMapper.Flag
import SqlMapper.Text.Cut

/-!
Templates: statement text with expressions in braces. An expression reaches from
an opening brace to the first closing brace after it, whatever stands between; a
brace that is never closed ends the template there. Every text is written by
exactly one proper template: reading and writing are inverse to each other
(`chars_ofChars`, `ofChars_chars`).
-/

namespace SqlMapper

inductive Template where
  /-- Text without an opening brace, to the end. -/
  | plain (text : List Char)
  /-- Text, an opening brace, and the rest without a closing one. -/
  | unclosed (text after : List Char)
  /-- Text, an expression in braces, and what follows it. -/
  | piece (text expression : List Char) (rest : Template)
deriving DecidableEq, Repr

namespace Template

def ofChars (cs : List Char) : Template :=
  match _opened : Text.cut '\x7b' cs with
  | (text, none) => .plain text
  | (text, some inner) =>
    match _closed : Text.cut '\x7d' inner with
    | (_, none) => .unclosed text inner
    | (expression, some rest) => .piece text expression (ofChars rest)
termination_by cs.length
decreasing_by exact Nat.lt_trans (Text.length_after_lt _closed) (Text.length_after_lt _opened)

def parse (source : String) : Template := ofChars source.toList

def chars : Template → List Char
  | plain text => text
  | unclosed text after => text ++ '\x7b' :: after
  | piece text expression rest => text ++ '\x7b' :: expression ++ '\x7d' :: rest.chars

def source (t : Template) : String := String.ofList t.chars

/-- No text holds an opening brace and no expression a closing one. -/
def Proper : Template → Prop
  | plain text => '\x7b' ∉ text
  | unclosed text after => '\x7b' ∉ text ∧ '\x7d' ∉ after
  | piece text expression rest => '\x7b' ∉ text ∧ '\x7d' ∉ expression ∧ rest.Proper

theorem chars_ofChars (cs : List Char) : (ofChars cs).chars = cs := by
  fun_induction ofChars cs with
  | case1 cs text h => exact (Text.cut_eq_none_iff.1 h).1.symm
  | case2 cs text inner h _ _ => exact (Text.cut_eq_some_iff.1 h).1.symm
  | case3 cs text inner h expression rest h' ih =>
    rw [(Text.cut_eq_some_iff.1 h).1, (Text.cut_eq_some_iff.1 h').1, chars, ih]
    simp

theorem proper_ofChars (cs : List Char) : (ofChars cs).Proper := by
  fun_induction ofChars cs with
  | case1 cs text h =>
    obtain ⟨rfl, hm⟩ := Text.cut_eq_none_iff.1 h
    exact hm
  | case2 cs text inner h _ h' =>
    exact ⟨(Text.cut_eq_some_iff.1 h).2, (Text.cut_eq_none_iff.1 h').2⟩
  | case3 cs text inner h expression rest h' ih =>
    exact ⟨(Text.cut_eq_some_iff.1 h).2, (Text.cut_eq_some_iff.1 h').2, ih⟩

theorem ofChars_of_not_mem {text : List Char} (h : '\x7b' ∉ text) : ofChars text = .plain text := by
  rw [ofChars]
  split
  · simp_all [Text.cut_of_not_mem]
  · simp_all [Text.cut_of_not_mem]

theorem ofChars_unclosed {text after : List Char} (h : '\x7b' ∉ text) (h' : '\x7d' ∉ after) :
    ofChars (text ++ '\x7b' :: after) = .unclosed text after := by
  rw [ofChars]
  split
  · simp_all [Text.cut_append]
  · rename_i inner _ heq
    rw [Text.cut_append h] at heq
    simp only [Prod.mk.injEq, Option.some.injEq] at heq
    obtain ⟨rfl, rfl⟩ := heq
    split <;> simp_all [Text.cut_of_not_mem]

theorem ofChars_piece {text expression : List Char} (h : '\x7b' ∉ text) (h' : '\x7d' ∉ expression)
    (rest : List Char) :
    ofChars (text ++ '\x7b' :: (expression ++ '\x7d' :: rest)) =
      .piece text expression (ofChars rest) := by
  rw [ofChars]
  split
  · simp_all [Text.cut_append]
  · rename_i inner _ heq
    rw [Text.cut_append h] at heq
    simp only [Prod.mk.injEq, Option.some.injEq] at heq
    obtain ⟨rfl, rfl⟩ := heq
    split <;> simp_all [Text.cut_append]

theorem ofChars_chars {t : Template} (h : t.Proper) : ofChars t.chars = t := by
  induction t with
  | plain text => exact ofChars_of_not_mem h
  | unclosed text after => exact ofChars_unclosed h.1 h.2
  | piece text expression rest ih =>
    rw [chars, List.append_assoc, List.cons_append, ofChars_piece h.1 h.2.1, ih h.2.2]

def expressions : Template → List (List Char)
  | plain _ => []
  | unclosed _ _ => []
  | piece _ expression rest => expression :: rest.expressions

end Template

end SqlMapper

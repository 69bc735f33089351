import SqlMapper.Proofs.Generated

/-!
The grammar of expressions. An expression is a word between the affixes of one of
eleven flags, in one way at most, and the word is the name of the entry and the
column of the condition. The same expressions are read, with the same result, when
the word is all that is left without punctuation and the flag is looked up by the
text in which every occurrence of the word is written `id`: words that are broken,
that are `id`, or that overlap with it, make no difference.
-/

namespace SqlMapper

def IsWord (s : String) : Prop :=
  s ≠ "" ∧ ∀ c ∈ s.toList,
    c = '_' ∨ ('a' ≤ c ∧ c ≤ 'z') ∨ ('A' ≤ c ∧ c ≤ 'Z') ∨ ('0' ≤ c ∧ c ≤ '9')

theorem isWordChar_iff (c : Char) : isWordChar c = true ↔
    c = '_' ∨ ('a' ≤ c ∧ c ≤ 'z') ∨ ('A' ≤ c ∧ c ≤ 'Z') ∨ ('0' ≤ c ∧ c ≤ '9') := by
  have within (low high : Char) : (decide (low.val ≤ c.val) && decide (c.val ≤ high.val)) = true ↔
      low ≤ c ∧ c ≤ high := by
    simp [Char.le_def]
  have upper : c.isUpper = true ↔ 'A' ≤ c ∧ c ≤ 'Z' := decide_eq_true_iff
  have lower : c.isLower = true ↔ 'a' ≤ c ∧ c ≤ 'z' := within 'a' 'z'
  have digit : c.isDigit = true ↔ '0' ≤ c ∧ c ≤ '9' := within '0' '9'
  have letter : c.isAlpha = true ↔ c.isLower = true ∨ c.isUpper = true :=
    Bool.or_eq_true_iff.trans or_comm
  have written : c.isAlphanum = true ↔ c.isAlpha = true ∨ c.isDigit = true := Bool.or_eq_true_iff
  rw [isWordChar, Bool.or_eq_true, beq_iff_eq, written, letter, upper, lower, digit, or_assoc]

theorem isIdentifier_iff_isWord (s : String) : isIdentifier s = true ↔ IsWord s := by
  simp only [isIdentifier_iff, IsWord, isWordChar_iff]

namespace Flag

def table : List (String × String × Flag) :=
  [("", "", list), ("*", "", splice), ("=", "", equal), ("!", "", unequal), (">", "", above),
    (">=", "", atLeast), ("<", "", below), ("<=", "", atMost), ("%", "", endingIn),
    ("%", "%", containing), ("", "%", startingWith)]

theorem mem_table (before after : String) (f : Flag) :
    (before, after, f) ∈ table ↔ before.toList = f.opening ∧ after.toList = f.closing := by
  have affix (s : String) (cs : List Char) : s.toList = cs ↔ s = String.ofList cs := by
    rw [← String.toList_inj, String.toList_ofList]
  cases f <;> simp [table, opening, closing, affix]

theorem ofPattern?_eq_some_iff (s : String) (f : Flag) : ofPattern? s = some f ↔ s = f.pattern := by
  constructor
  · intro h
    have found := List.find?_some h
    exact (beq_iff_eq.1 found).symm
  · rintro rfl
    cases f <;> rfl

end Flag

structure Spelling (raw before word after : String) (f : Flag) : Prop where
  row : (before, after, f) ∈ Flag.table
  isWord : IsWord word
  written : raw = before ++ word ++ after

namespace Text

/-- A text with every occurrence of a word, found from the left, written as another. -/
def replaceAll (word new : List Char) : List Char → List Char
  | [] => []
  | c :: cs =>
    if word.isPrefixOf (c :: cs) then new ++ replaceAll word new (cs.drop (word.length - 1))
    else c :: replaceAll word new cs
termination_by cs => cs.length
decreasing_by
  · rw [List.length_drop, List.length_cons]
    omega
  · exact Nat.lt_add_one _

theorem replaceAll_of_not_infix {word cs : List Char} (new : List Char) (h : ¬ word <:+: cs) :
    replaceAll word new cs = cs := by
  induction cs with
  | nil => rw [replaceAll]
  | cons c cs ih =>
    have head : ¬ word <+: c :: cs := fun hp => h hp.isInfix
    have rest : ¬ word <:+: cs := fun hi => h (hi.trans (List.suffix_cons c cs).isInfix)
    rw [replaceAll, if_neg (by rwa [List.isPrefixOf_iff_prefix]), ih rest]

/-- Where the first character of a word stands nowhere else, one occurrence is found. -/
theorem replaceAll_between {w : Char} {ws before after : List Char} (new : List Char)
    (hb : w ∉ before) (ha : w ∉ after) :
    replaceAll (w :: ws) new (before ++ (w :: ws) ++ after) = before ++ new ++ after := by
  induction before with
  | nil =>
    have none : ¬ (w :: ws) <:+: after := fun h => ha (h.mem (by simp))
    rw [List.nil_append, List.cons_append, replaceAll, if_pos (by simp), List.length_cons,
      Nat.add_sub_cancel, List.drop_left, replaceAll_of_not_infix new none, List.nil_append]
  | cons c before ih =>
    simp only [List.mem_cons, not_or] at hb
    rw [List.cons_append, List.cons_append, replaceAll,
      if_neg (by simp [List.isPrefixOf, hb.1]), ih hb.2, List.cons_append, List.cons_append]

end Text

theorem punctuation_around {before word after : List Char}
    (h : (before ++ word ++ after).filter isWordChar = word) :
    (∀ c ∈ before, isWordChar c = false) ∧ ∀ c ∈ after, isWordChar c = false := by
  have plain : word.filter isWordChar = word := by
    rw [List.filter_eq_self]
    intro c hc
    rw [← h] at hc
    exact (List.mem_filter.1 hc).2
  rw [List.filter_append, List.filter_append, plain] at h
  have lengths := congrArg List.length h
  simp only [List.length_append] at lengths
  have left : before.filter isWordChar = [] := List.length_eq_zero_iff.1 (by omega)
  have right : after.filter isWordChar = [] := List.length_eq_zero_iff.1 (by omega)
  simpa [List.filter_eq_nil_iff] using And.intro left right

theorem replaceAll_punctuated {before word after : List Char} (new : List Char) (ne : word ≠ [])
    (hb : ∀ c ∈ before, isWordChar c = false) (hw : ∀ c ∈ word, isWordChar c = true)
    (ha : ∀ c ∈ after, isWordChar c = false) :
    Text.replaceAll word new (before ++ word ++ after) = before ++ new ++ after := by
  obtain ⟨w, ws, rfl⟩ := List.exists_cons_of_ne_nil ne
  have apart {part : List Char} (hpart : ∀ c ∈ part, isWordChar c = false) : w ∉ part :=
    fun hm => by simpa [hpart w hm] using hw w
  exact Text.replaceAll_between new (apart hb) (apart ha)

namespace Expression

theorem affixes_unique {before word after before' word' after' : List Char}
    (hb : ∀ c ∈ before, isWordChar c = false) (hw : ∀ c ∈ word, isWordChar c = true)
    (ha : ∀ c ∈ after, isWordChar c = false) (ne : word ≠ [])
    (hb' : ∀ c ∈ before', isWordChar c = false) (hw' : ∀ c ∈ word', isWordChar c = true)
    (ha' : ∀ c ∈ after', isWordChar c = false) (ne' : word' ≠ [])
    (h : before ++ word ++ after = before' ++ word' ++ after') :
    before = before' ∧ word = word' ∧ after = after' := by
  obtain ⟨h₁, h₂, h₃, h₄⟩ := split_word hb hw ha ne
  obtain ⟨h₁', h₂', h₃', h₄'⟩ := split_word hb' hw' ha' ne'
  have rest : word ++ after = word' ++ after' := by rw [← h₂, h, h₂']
  exact ⟨by rw [← h₁, h, h₁'], by rw [← h₃, rest, h₃'], by rw [← h₄, rest, h₄']⟩

/-- The word is what is left without punctuation, and the flag is looked up by the
text with the word written as `id`. -/
def byReplacement? (cs : List Char) : Option Expression :=
  let word := identifierIn (String.ofList cs)
  if word = "" then none
  else (Flag.ofPattern? (String.ofList (Text.replaceAll word.toList ['i', 'd'] cs))).map (⟨·, word⟩)

theorem filter_between (f : Flag) {word : List Char} (hw : ∀ c ∈ word, isWordChar c = true) :
    (f.opening ++ word ++ f.closing).filter isWordChar = word := by
  have before : f.opening.filter isWordChar = [] :=
    List.filter_eq_nil_iff.2 fun c hc => by simp [f.opening_noWord c hc]
  have after : f.closing.filter isWordChar = [] :=
    List.filter_eq_nil_iff.2 fun c hc => by simp [f.closing_noWord c hc]
  rw [List.filter_append, List.filter_append, before, after, List.filter_eq_self.2 hw,
    List.nil_append, List.append_nil]

theorem byReplacement?_chars {e : Expression} (h : isIdentifier e.identifier = true) :
    byReplacement? e.chars = some e := by
  obtain ⟨f, word⟩ := e
  obtain ⟨ne, plain⟩ := (isIdentifier_iff word).1 h
  have letters : word.toList ≠ [] := mt String.toList_eq_nil_iff.1 ne
  have left : identifierIn (String.ofList (chars ⟨f, word⟩)) = word := by
    rw [identifierIn, String.toList_ofList, chars, filter_between f plain, String.ofList_toList]
  have replaced : Text.replaceAll word.toList ['i', 'd'] (chars ⟨f, word⟩) =
      f.opening ++ ['i', 'd'] ++ f.closing :=
    replaceAll_punctuated _ letters f.opening_noWord plain f.closing_noWord
  rw [byReplacement?, left, if_neg ne, replaced]
  show (Flag.ofPattern? f.pattern).map _ = _
  rw [(Flag.ofPattern?_eq_some_iff _ f).2 rfl]
  rfl

theorem eq_chars_of_byReplacement? {cs : List Char} {e : Expression}
    (h : byReplacement? cs = some e) : isIdentifier e.identifier = true ∧ cs = e.chars := by
  rw [byReplacement?] at h
  by_cases ne : identifierIn (String.ofList cs) = ""
  · rw [if_pos ne] at h
    cases h
  rw [if_neg ne] at h
  obtain ⟨f, pattern, rfl⟩ := Option.map_eq_some_iff.1 h
  generalize hword : identifierIn (String.ofList cs) = word at ne pattern
  have letters : cs.filter isWordChar = word.toList := by
    rw [← hword, identifierIn, String.toList_ofList, String.toList_ofList]
  have plain : ∀ c ∈ word.toList, isWordChar c = true := by
    rw [← letters]
    exact fun c hc => (List.mem_filter.1 hc).2
  have replaced : Text.replaceAll word.toList ['i', 'd'] cs =
      f.opening ++ ['i', 'd'] ++ f.closing :=
    String.ofList_inj.1 ((Flag.ofPattern?_eq_some_iff _ f).1 pattern)
  have id_plain : ∀ c ∈ ['i', 'd'], isWordChar c = true := List.all_eq_true.1 rfl
  refine ⟨(isIdentifier_iff word).2 ⟨ne, plain⟩, ?_⟩
  show cs = f.opening ++ word.toList ++ f.closing
  by_cases unbroken : word.toList <:+: cs
  · obtain ⟨before, after, split⟩ := unbroken
    rw [← split] at letters
    obtain ⟨hb, ha⟩ := punctuation_around letters
    rw [← split, replaceAll_punctuated _ (mt String.toList_eq_nil_iff.1 ne) hb plain ha] at replaced
    obtain ⟨rfl, -, rfl⟩ := affixes_unique hb id_plain ha (by simp) f.opening_noWord id_plain
      f.closing_noWord (by simp) replaced
    exact split.symm
  · -- A broken word is nowhere replaced, so the text is a pattern, and its word is not broken.
    rw [Text.replaceAll_of_not_infix _ unbroken] at replaced
    rw [replaced, filter_between f id_plain] at letters
    rw [replaced, ← letters] at unbroken
    exact absurd ⟨f.opening, f.closing, rfl⟩ unbroken

theorem byReplacement?_eq_read? (cs : List Char) : byReplacement? cs = read? cs := by
  ext e
  rw [read?_eq_some_iff]
  constructor
  · exact eq_chars_of_byReplacement?
  · rintro ⟨word, rfl⟩
    exact byReplacement?_chars word

theorem read?_eq_some_iff_spelling (raw word : String) (f : Flag) :
    read? raw.toList = some ⟨f, word⟩ ↔ ∃ before after, Spelling raw before word after f := by
  rw [read?_eq_some_iff, isIdentifier_iff_isWord]
  constructor
  · rintro ⟨isWord, written⟩
    refine ⟨String.ofList f.opening, String.ofList f.closing, ?_, isWord, ?_⟩
    · simp [Flag.mem_table]
    · apply String.toList_inj.1
      simp [written, chars]
  · rintro ⟨before, after, row, isWord, rfl⟩
    obtain ⟨opening, closing⟩ := (Flag.mem_table _ _ _).1 row
    exact ⟨isWord, by simp [chars, opening, closing]⟩

end Expression

namespace Flag

def operands : Flag → Nat → Nat
  | list, _ => 0
  | splice, _ => 0
  | equal, _ => 1
  | unequal, _ => 1
  | _, n => n

/-- The texts between the occurrences of a column: as a word of its own it stands
before a space, and behind punctuation or at the beginning. -/
structure Around (occurrences : Nat) (parts : List String) : Prop where
  length : parts.length = occurrences + 1
  behind : ∀ p ∈ parts.tail, p.toList.head? = some ' '
  before : ∀ p ∈ parts.dropLast, ∀ c ∈ p.toList.getLast?, isWordChar c = false

def alternatives (lead operator close : String) (n : Nat) : List String :=
  lead :: (List.replicate n (" " ++ operator ++ " ?" ++ " or ") ++ [" " ++ operator ++ " ?" ++ close])

theorem intercalate_alternatives (lead operator close column : String) (n : Nat) :
    column.intercalate (alternatives lead operator close n) =
      lead ++ " or ".intercalate (List.replicate (n + 1) (column ++ " " ++ operator ++ " ?")) ++
        close := by
  induction n generalizing lead with
  | zero =>
    rw [alternatives, List.replicate_zero, List.nil_append, String.intercalate_cons_cons,
      String.intercalate_singleton, List.replicate_one, String.intercalate_singleton]
    simp only [String.append_assoc]
  | succ n ih =>
    rw [alternatives, List.replicate_succ, List.cons_append, String.intercalate_cons_cons]
    show lead ++ column ++ column.intercalate (alternatives _ operator close n) = _
    rw [ih, List.replicate_succ (n := n + 1), List.replicate_succ, String.intercalate_cons_cons,
      ← List.replicate_succ]
    simp only [String.append_assoc]

theorem around_alternatives {lead : String} (hl : ∀ c ∈ lead.toList.getLast?, isWordChar c = false)
    (operator close : String) (n : Nat) : Around (n + 1) (alternatives lead operator close n) := by
  have space : isWordChar ' ' = false := rfl
  refine ⟨by simp [alternatives], ?_, ?_⟩
  · intro p hp
    rw [alternatives, List.tail_cons, List.mem_append] at hp
    obtain hp | hp := hp
    · simp [List.eq_of_mem_replicate hp]
    · simp [List.mem_singleton.1 hp]
  · intro p hp
    rw [alternatives, ← List.cons_append, List.dropLast_concat] at hp
    obtain rfl | hp := List.mem_cons.1 hp
    · exact hl
    · simp [List.eq_of_mem_replicate hp, List.getLast?_cons, List.getLast?_append, space]

theorem comparison_column (operator : String) (values : List Scalar) :
    ∃ parts, Around values.length parts ∧
      ∀ column, (comparison column values operator).text = column.intercalate parts := by
  match h : values.length with
  | 0 =>
    obtain rfl := List.length_eq_zero_iff.1 h
    refine ⟨[""], ⟨rfl, by simp, by simp⟩, fun column => ?_⟩
    rw [String.intercalate_singleton]
    rfl
  | 1 =>
    have bare : ∀ c ∈ "".toList.getLast?, isWordChar c = false := by simp
    refine ⟨_, around_alternatives bare operator "" 0, fun column => ?_⟩
    simp [intercalate_alternatives, comparison, List.map_const', h]
  | n + 2 =>
    have opened : ∀ c ∈ "(".toList.getLast?, isWordChar c = false := by
      have paren : isWordChar '(' = false := rfl
      simp [paren]
    refine ⟨_, around_alternatives opened operator ")" (n + 1), fun column => ?_⟩
    rw [intercalate_alternatives]
    simp [comparison, List.map_const', h]

theorem membership_column (one several : String) (value : Bindable) :
    ∃ parts, Around 1 parts ∧
      ∀ column, (membership column value one several).text = column.intercalate parts := by
  have around (behind : String) : Around 1 ["", " " ++ behind] :=
    ⟨rfl, by simp, by simp⟩
  have text (column behind : String) : column.intercalate ["", " " ++ behind] =
      column ++ " " ++ behind := by
    rw [String.intercalate_cons_cons, String.intercalate_singleton, String.empty_append,
      String.append_assoc]
  simp only [membership_eq]
  split
  · refine ⟨_, around (several ++ " (" ++ markers value.values ++ ")"), fun column => ?_⟩
    rw [text]
    simp only [String.append_assoc]
  · refine ⟨_, around (one ++ " ?"), fun column => ?_⟩
    rw [text, ← String.append_assoc]
    rfl

theorem fragment_column (f : Flag) (value : Bindable) :
    ∃ parts, Around (f.operands value.values.length) parts ∧
      ∀ column, (f.fragment column value).text = column.intercalate parts := by
  have none (text : String) : ∃ parts, Around 0 parts ∧
      ∀ column : String, text = column.intercalate parts :=
    ⟨[text], ⟨rfl, by simp, by simp⟩, fun column => String.intercalate_singleton.symm⟩
  have pattern (before after : String) : ∃ parts, Around value.values.length parts ∧
      ∀ column, (likeness column value.values before after).text = column.intercalate parts := by
    have h := comparison_column "like"
      (value.values.map fun v => .text (before ++ v.literal ++ after))
    rwa [List.length_map] at h
  cases f with
  | list =>
    simp only [fragment, direct_eq]
    exact none _
  | splice => exact none _
  | equal => exact membership_column ..
  | unequal => exact membership_column ..
  | above => exact comparison_column ..
  | atLeast => exact comparison_column ..
  | below => exact comparison_column ..
  | atMost => exact comparison_column ..
  | endingIn => exact pattern ..
  | containing => exact pattern ..
  | startingWith => exact pattern ..

end Flag

namespace Binding

theorem bindFrom_braced {raw : String} (h : '\x7d' ∉ raw.toList) (style : PlaceholderStyle)
    (bound : Nat) (data : Mapping) :
    bindFrom style bound (Statement.braced raw) data =
      (resolve data raw.toList).map fun r => ⟨r.1.render style bound r.2, r.1.values r.2⟩ := by
  have parsed : Template.parse (Statement.braced raw) = .piece [] raw.toList (.plain []) := by
    have split : (Statement.braced raw).toList = '\x7b' :: (raw.toList ++ '\x7d' :: []) := by
      simp [Statement.braced]
    have piece : Template.ofChars ('\x7b' :: (raw.toList ++ '\x7d' :: [])) =
        .piece [] raw.toList (Template.ofChars []) :=
      Template.ofChars_piece List.not_mem_nil h []
    rw [Template.parse, split, piece, Template.ofChars_of_not_mem List.not_mem_nil]
  rw [bindFrom, parsed]
  cases hr : resolve data raw.toList with
  | error e => rw [Template.bind_piece_of_error hr]; rfl
  | ok r =>
    rw [Template.bind_piece_of_ok hr, Template.bind]
    simp [Except.map, Query.mk_append]

end Binding

namespace Spelling

variable {raw before word after before' word' after' : String} {f f' : Flag}

theorem resolve_eq (h : Spelling raw before word after f) (data : Mapping) :
    resolve data raw.toList =
      (data.get? word).elim (.error (.missing word)) fun value => .ok (⟨f, word⟩, value) := by
  rw [resolve, (Expression.read?_eq_some_iff_spelling raw word f).2 ⟨before, after, h⟩]
  cases hv : data.get? word <;> simp [hv]

theorem unique (h : Spelling raw before word after f) (h' : Spelling raw before' word' after' f') :
    before = before' ∧ word = word' ∧ after = after' ∧ f = f' := by
  have read := (Expression.read?_eq_some_iff_spelling raw word f).2 ⟨before, after, h⟩
  have read' := (Expression.read?_eq_some_iff_spelling raw word' f').2 ⟨before', after', h'⟩
  rw [read, Option.some.injEq, Expression.mk.injEq] at read'
  obtain ⟨rfl, rfl⟩ := read'
  obtain ⟨opening, closing⟩ := (Flag.mem_table _ _ _).1 h.row
  obtain ⟨opening', closing'⟩ := (Flag.mem_table _ _ _).1 h'.row
  refine ⟨?_, rfl, ?_, rfl⟩
  · exact String.toList_inj.1 (opening.trans opening'.symm)
  · exact String.toList_inj.1 (closing.trans closing'.symm)

theorem brace_notMem (h : Spelling raw before word after f) : '\x7d' ∉ raw.toList := by
  have read := (Expression.read?_eq_some_iff_spelling raw word f).2 ⟨before, after, h⟩
  obtain ⟨plain, written⟩ := (Expression.read?_eq_some_iff _ _).1 read
  rw [written]
  exact Expression.brace_notMem_chars plain

end Spelling

/-- The expressions that are read are exactly the words between the affixes of a row
of the flag table, each in one way, and reading by replacement finds the same. The
entry looked up is the one of the word, and the fragment is the one of the row, with
the word for its column in full; any other text is an unknown flag, whatever the
data. -/
theorem Expression.read?_spelling (raw : String) :
    (∀ f word, read? raw.toList = some ⟨f, word⟩ ↔
      ∃ before after, Spelling raw before word after f) ∧
    (∀ before word after f before' word' after' f', Spelling raw before word after f →
      Spelling raw before' word' after' f' →
        before = before' ∧ word = word' ∧ after = after' ∧ f = f') ∧
    byReplacement? raw.toList = read? raw.toList ∧
    (∀ data : Mapping,
      (∀ before word after f, Spelling raw before word after f →
        (data.get? word = none → resolve data raw.toList = .error (.missing word)) ∧
        ∀ value, data.get? word = some value →
          resolve data raw.toList = .ok (⟨f, word⟩, value) ∧
          ∀ style bound, Binding.bindFrom style bound (Statement.braced raw) data =
            .ok ⟨if f.binds then style.render bound (f.fragment word value).text
              else (f.fragment word value).text, (f.fragment word value).values⟩) ∧
      ((¬ ∃ before word after f, Spelling raw before word after f) →
        resolve data raw.toList = .error (.unknownFlag raw))) ∧
    ∀ (f : Flag) (value : Bindable), ∃ parts,
      Flag.Around (f.operands value.values.length) parts ∧
        ∀ word, (f.fragment word value).text = word.intercalate parts := by
  refine ⟨fun f word => read?_eq_some_iff_spelling raw word f,
    fun _ _ _ _ _ _ _ _ h h' => h.unique h', byReplacement?_eq_read? _, fun data => ⟨?_, ?_⟩,
    Flag.fragment_column⟩
  · intro before word after f h
    refine ⟨fun absent => ?_, fun value found => ?_⟩
    · rw [h.resolve_eq, absent, Option.elim_none]
    · have resolved : resolve data raw.toList = .ok (⟨f, word⟩, value) := by
        rw [h.resolve_eq, found, Option.elim_some]
      refine ⟨resolved, fun style bound => ?_⟩
      rw [Binding.bindFrom_braced h.brace_notMem, resolved]
      rfl
  · intro none
    cases hr : read? raw.toList with
    | none => rw [resolve, hr, String.ofList_toList]
    | some e =>
      obtain ⟨before, after, h⟩ := (read?_eq_some_iff_spelling raw e.identifier e.flag).1 hr
      exact absurd ⟨before, e.identifier, after, e.flag, h⟩ none

def about : Mapping :=
  ((Fields.empty.insert "d" (.many [.int 3, .int 4])).insert "id" (.one (.int 7))).insert "void_id"
    (.one (.text "x"))

theorem Expression.read?_spelling_about :
    Spelling "%void_id%" "%" "void_id" "%" .containing ∧
      resolve about ">=id".toList = .ok (⟨.atLeast, "id"⟩, .one (.int 7)) ∧
      Binding.bindFrom .dollar 1 (Statement.braced "!d") about =
        .ok ⟨"d not in ($2, $3)", [.int 3, .int 4]⟩ ∧
      resolve about "%void_id%".toList = .ok (⟨.containing, "void_id"⟩, .one (.text "x")) ∧
      resolve about "i d".toList = .error (.unknownFlag "i d") := by
  have isWord {s : String} (h : isIdentifier s = true) : IsWord s := (isIdentifier_iff_isWord s).1 h
  have whole : Spelling ">=id" ">=" "id" "" .atLeast :=
    ⟨by decide, isWord (by decide), by decide⟩
  have inner : Spelling "!d" "!" "d" "" .unequal := ⟨by decide, isWord (by decide), by decide⟩
  have outer : Spelling "%void_id%" "%" "void_id" "%" .containing :=
    ⟨by decide, isWord (by decide), by decide⟩
  have broken : ¬ ∃ before word after f, Spelling "i d" before word after f := by
    rintro ⟨before, word, after, f, h⟩
    have read := ((Expression.read?_spelling "i d").1 f word).2 ⟨before, after, h⟩
    have none : read? "i d".toList = none := by decide +kernel
    rw [none] at read
    cases read
  refine ⟨outer, ?_, ?_, ?_, ?_⟩
  · exact (((read?_spelling _).2.2.2.1 about).1 _ _ _ _ whole).2 _ rfl |>.1
  · have bound := (((read?_spelling _).2.2.2.1 about).1 _ _ _ _ inner).2 (.many [.int 3, .int 4]) rfl
    rw [bound.2 .dollar 1]
    decide +kernel
  · exact (((read?_spelling _).2.2.2.1 about).1 _ _ _ _ outer).2 _ rfl |>.1
  · exact ((read?_spelling _).2.2.2.1 about).2 broken

end SqlMapper

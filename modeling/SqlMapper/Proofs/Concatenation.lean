import SqlMapper.Proofs.Filled

/-!
Binding a concatenation. The text after the last expression of the first part runs
on into the second, so the parts are read as one template; all the same the bound
concatenation is the one part followed by the other, with the parameters of the
first counted before the second. An unclosed brace is reported at its place in
the whole, and a defect of the first part that more text cannot mend comes first.
-/

namespace SqlMapper

namespace Template

def ledBy (lead : List Char) : Template → Template
  | plain text => plain (lead ++ text)
  | unclosed text rest => unclosed (lead ++ text) rest
  | piece text expression rest => piece (lead ++ text) expression rest

/-- A template with more text behind it. What stood after an unclosed brace is
read anew, since the brace may now be closed. -/
def followedBy (more : List Char) : Template → Template
  | plain text => (ofChars more).ledBy text
  | unclosed text rest => ofChars (text ++ '\x7b' :: (rest ++ more))
  | piece text expression rest => piece text expression (rest.followedBy more)

theorem chars_ledBy (lead : List Char) (t : Template) : (t.ledBy lead).chars = lead ++ t.chars := by
  cases t <;> simp [ledBy, chars]

theorem proper_ledBy {lead : List Char} (hl : '\x7b' ∉ lead) {t : Template} (h : t.Proper) :
    (t.ledBy lead).Proper := by
  have text {cs : List Char} (hcs : '\x7b' ∉ cs) : '\x7b' ∉ lead ++ cs := by simp [hl, hcs]
  cases t with
  | plain cs => exact text h
  | unclosed cs rest => exact ⟨text h.1, h.2⟩
  | piece cs expression rest => exact ⟨text h.1, h.2⟩

theorem ofChars_ledBy {lead : List Char} (h : '\x7b' ∉ lead) (cs : List Char) :
    ofChars (lead ++ cs) = (ofChars cs).ledBy lead := by
  have proper := proper_ledBy h (proper_ofChars cs)
  have written : ((ofChars cs).ledBy lead).chars = lead ++ cs := by rw [chars_ledBy, chars_ofChars]
  rw [← written, ofChars_chars proper]

theorem Proper.ofChars_append {t : Template} (h : t.Proper) (more : List Char) :
    ofChars (t.chars ++ more) = t.followedBy more := by
  induction t with
  | plain text => exact ofChars_ledBy h more
  | unclosed text rest => simp [chars, followedBy]
  | piece text expression rest ih =>
    have split : (piece text expression rest).chars ++ more =
        text ++ '\x7b' :: (expression ++ '\x7d' :: (rest.chars ++ more)) := by simp [chars]
    rw [split, ofChars_piece h.1 h.2.1, ih h.2.2, followedBy]

theorem parse_append (first second : String) :
    parse (first ++ second) = (parse first).followedBy second.toList := by
  have proper := proper_ofChars first.toList
  rw [parse, parse, String.toList_append, ← proper.ofChars_append, chars_ofChars]

end Template

def BindingError.within (whole : String) (consumed : Nat) : BindingError → BindingError
  | .unclosed offset _ => .unclosed (consumed + offset) whole
  | e => e

/-- Errors that more text at the end of the template does not mend. -/
def BindingError.Lasting (e : BindingError) : Prop := ∀ offset whole, e ≠ .unclosed offset whole

theorem BindingError.within_of_lasting {e : BindingError} (h : e.Lasting) (whole : String)
    (consumed : Nat) : e.within whole consumed = e := by
  cases e with
  | unclosed offset template => exact absurd rfl (h offset template)
  | unknownFlag expression => rfl
  | missing identifier => rfl
  | invalidValue identifier found => rfl

theorem lasting_of_resolve {data : Mapping} {raw : List Char} {e : BindingError}
    (h : resolve data raw = .error e) : e.Lasting := by
  intro offset whole
  rintro rfl
  rw [resolve] at h
  split at h
  · cases h
  · split at h <;> cases h

namespace Template

variable {style : PlaceholderStyle} {data : Mapping}

theorem bind_ledBy (lead : List Char) (whole : String) (bound consumed : Nat) (t : Template) :
    (t.ledBy lead).bind style data whole bound consumed =
      (t.bind style data whole bound (consumed + Text.byteLength lead)).map
        (⟨String.ofList lead, []⟩ ++ ·) := by
  cases t with
  | plain text =>
    rw [ledBy, bind, bind, String.ofList_append]
    rfl
  | unclosed text rest =>
    rw [ledBy, bind, bind, Text.byteLength_append, Nat.add_assoc]
    rfl
  | piece text raw rest =>
    rw [ledBy]
    cases h : resolve data raw with
    | error e =>
      rw [bind_piece_of_error h, bind_piece_of_error h]
      rfl
    | ok r =>
      obtain ⟨e, value⟩ := r
      have front : Query.mk (String.ofList (lead ++ text) ++ e.render style bound value)
          (e.values value) = ⟨String.ofList lead, []⟩ ++
            ⟨String.ofList text ++ e.render style bound value, e.values value⟩ := by
        rw [String.ofList_append, String.append_assoc]
        rfl
      have place : consumed + Text.byteLength (lead ++ text) + Text.byteLength raw + 2 =
          consumed + Text.byteLength lead + Text.byteLength text + Text.byteLength raw + 2 := by
        rw [Text.byteLength_append]
        omega
      rw [bind_piece_of_ok h, bind_piece_of_ok h, map_map, front, place]
      simp only [Query.append_assoc]

/-- A template is bound alike wherever it stands, and its errors are told about
the whole it stands in. -/
theorem bind_within (whole part : String) (bound before consumed : Nat) (t : Template) :
    t.bind style data whole bound (before + consumed) =
      (t.bind style data part bound consumed).mapError fun e => e.within whole before := by
  induction t generalizing bound consumed with
  | plain text => rfl
  | unclosed text rest =>
    rw [bind, bind, Nat.add_assoc]
    rfl
  | piece text raw rest ih =>
    cases h : resolve data raw with
    | error e =>
      have lasting := BindingError.within_of_lasting (lasting_of_resolve h) whole before
      rw [bind_piece_of_error h, bind_piece_of_error h]
      exact congrArg Except.error lasting.symm
    | ok r =>
      obtain ⟨e, value⟩ := r
      have place : before + consumed + Text.byteLength text + Text.byteLength raw + 2 =
          before + (consumed + Text.byteLength text + Text.byteLength raw + 2) := by omega
      rw [bind_piece_of_ok h, bind_piece_of_ok h, place, ih, mapError_map]

theorem bind_followedBy_of_ok (more : List Char) {part : String} (whole : String)
    {bound consumed : Nat} {t : Template} {q : Query}
    (h : t.bind style data part bound consumed = .ok q) :
    (t.followedBy more).bind style data whole bound consumed =
      ((ofChars more).bind style data whole (bound + q.params.length)
        (consumed + Text.byteLength t.chars)).map (q ++ ·) := by
  -- both counts and the statement so far change with every piece
  induction t generalizing bound consumed q with
  | plain text =>
    cases h
    exact bind_ledBy text whole bound consumed (ofChars more)
  | unclosed text rest => cases h
  | piece text raw rest ih =>
    obtain ⟨e, value, last, hr, hlast, rfl⟩ := (bind_piece_eq_ok_iff ..).1 h
    have count : bound + (Query.mk (String.ofList text ++ e.render style bound value)
        (e.values value) ++ last).params.length =
          bound + (e.values value).length + last.params.length := by
      rw [Query.append_params, List.length_append, Nat.add_assoc]
    have place : consumed + Text.byteLength (piece text raw rest).chars =
        consumed + Text.byteLength text + Text.byteLength raw + 2 +
          Text.byteLength rest.chars := by
      rw [chars, byteLength_piece]
      omega
    rw [followedBy, bind_piece_of_ok hr, ih hlast, map_map, count, place]
    simp only [Query.append_assoc]

theorem bind_followedBy_of_error (more : List Char) {part : String} (whole : String)
    {bound consumed : Nat} {t : Template} {e : BindingError} (lasting : e.Lasting)
    (h : t.bind style data part bound consumed = .error e) :
    (t.followedBy more).bind style data whole bound consumed = .error e := by
  induction t generalizing bound consumed with
  | plain text => cases h
  | unclosed text rest =>
    cases h
    exact absurd rfl (lasting _ _)
  | piece text raw rest ih =>
    rw [followedBy]
    cases hr : resolve data raw with
    | error e' =>
      rw [bind_piece_of_error hr] at h
      rw [bind_piece_of_error hr, h]
    | ok r =>
      obtain ⟨e', value⟩ := r
      rw [bind_piece_of_ok hr, map_eq_error_iff] at h
      rw [bind_piece_of_ok hr, ih h]
      rfl

end Template

namespace Binding

variable {style : PlaceholderStyle} {bound : Nat} {data : Mapping} {first : String}

theorem bindFrom_append_of_ok {q : Query} (h : bindFrom style bound first data = .ok q)
    (second : String) :
    bindFrom style bound (first ++ second) data =
      ((bindFrom style (bound + q.params.length) second data).mapError fun e =>
        e.within (first ++ second) first.utf8ByteSize).map (q ++ ·) := by
  have size : 0 + Text.byteLength (Template.parse first).chars = first.utf8ByteSize + 0 := by
    rw [Template.parse, Template.chars_ofChars, Text.byteLength_toList, Nat.zero_add, Nat.add_zero]
  rw [bindFrom, Template.parse_append, Template.bind_followedBy_of_ok _ _ h, size,
    Template.bind_within _ second]
  rfl

/-- Binding a concatenation is binding its parts one after the other. -/
theorem bindFrom_append (style : PlaceholderStyle) (bound : Nat) (data : Mapping)
    (first second : String) :
    (∀ q, bindFrom style bound first data = .ok q →
      (∀ q', bindFrom style (bound + q.params.length) second data = .ok q' →
        bindFrom style bound (first ++ second) data = .ok (q ++ q')) ∧
      (∀ k whole,
        bindFrom style (bound + q.params.length) second data = .error (.unclosed k whole) →
        bindFrom style bound (first ++ second) data =
          .error (.unclosed (first.utf8ByteSize + k) (first ++ second))) ∧
      ∀ e, (∀ k whole, e ≠ .unclosed k whole) →
        bindFrom style (bound + q.params.length) second data = .error e →
        bindFrom style bound (first ++ second) data = .error e) ∧
    ∀ e, (∀ k whole, e ≠ .unclosed k whole) → bindFrom style bound first data = .error e →
      bindFrom style bound (first ++ second) data = .error e := by
  refine ⟨fun q h => ⟨fun q' h' => ?_, fun k whole h' => ?_, fun e lasting h' => ?_⟩,
    fun e lasting h => ?_⟩
  · rw [bindFrom_append_of_ok h, h']
    rfl
  · rw [bindFrom_append_of_ok h, h']
    rfl
  · have told := BindingError.within_of_lasting lasting (first ++ second) first.utf8ByteSize
    rw [bindFrom_append_of_ok h, h']
    exact congrArg Except.error told
  · rw [bindFrom, Template.parse_append]
    exact Template.bind_followedBy_of_error _ _ lasting h

def members : Mapping :=
  ((Fields.empty.insert "age" (.many [.int 18, .int 30])).insert "id" (.many [])).insert "name"
    (.one (.text "To?"))

theorem bindFrom_append_members :
    bindFrom .dollar 2 ("é \x7b%name\x7d or \x7b>age\x7d, " ++ "\x7b=id\x7d") members =
        .ok ⟨"é name like $3 or (age > $4 or age > $5), id = $6",
          [.text "%To?", .int 18, .int 30, .null]⟩ ∧
      bindFrom .dollar 2 ("é \x7b=id\x7d, " ++ "\x7bage\x7d \x7bid") members =
        .error (.unclosed 16 "é \x7b=id\x7d, \x7bage\x7d \x7bid") ∧
      bindFrom .dollar 2 ("é \x7b=id\x7d, " ++ "\x7b~id\x7d") members =
        .error (.unknownFlag "~id") ∧
      bindFrom .dollar 2 ("\x7bgone\x7d \x7b" ++ "~id\x7d") members = .error (.missing "gone") := by
  refine ⟨?_, ?_, ?_, ?_⟩
  · exact ((bindFrom_append .dollar 2 members _ _).1
      ⟨"é name like $3 or (age > $4 or age > $5), ", [.text "%To?", .int 18, .int 30]⟩ (by decide +kernel)).1
      ⟨"id = $6", [.null]⟩ (by decide +kernel)
  · exact ((bindFrom_append .dollar 2 members _ _).1 ⟨"é id = $3, ", [.null]⟩ (by decide +kernel)).2.1
      6 "\x7bage\x7d \x7bid" (by decide +kernel)
  · exact ((bindFrom_append .dollar 2 members _ _).1 ⟨"é id = $3, ", [.null]⟩ (by decide +kernel)).2.2
      (.unknownFlag "~id") (by simp) (by decide +kernel)
  · exact (bindFrom_append .dollar 2 members _ _).2 (.missing "gone") (by simp) (by decide +kernel)

end Binding

end SqlMapper

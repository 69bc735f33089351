import SqlMapper.Model.Record
import SqlMapper.Proofs.Caching
import SqlMapper.Proofs.Grammar
import SqlMapper.Proofs.Lookup
import SqlMapper.Proofs.Persistence
import SqlMapper.Proofs.SnakeCase

/-!
Relations by convention. The name of a model that is a word stays one when it is written
in snake case, so that its relation key is a column every check lets through, and never
the key that templates use for the table. From a parent to its children and from a child
to its parent the same column is compared with the same value (`relations_by_convention`).
-/

namespace SqlMapper

namespace Text

theorem forall_ascii {P : Char → Prop} (h : ∀ n < 128, P (Char.ofNat n)) {c : Char}
    (hc : c.toNat < 128) : P c := by
  have checked := h c.toNat hc
  rwa [Char.ofNat_toNat] at checked

theorem toNat_lt_of_isWordChar {c : Char} (h : isWordChar c = true) : c.toNat < 128 := by
  rw [isWordChar_iff] at h
  simp only [Char.le_def, UInt32.le_iff_toNat_le] at h
  show c.val.toNat < 128
  rcases h with rfl | h | h | h
  · decide
  · exact Nat.lt_of_le_of_lt h.2 (by decide)
  · exact Nat.lt_of_le_of_lt h.2 (by decide)
  · exact Nat.lt_of_le_of_lt h.2 (by decide)

theorem lowerForm_of_isWordChar {c : Char} (h : isWordChar c = true) :
    isBlank c = false ∧ lowerForm c ≠ [] ∧ ∀ d ∈ lowerForm c, isWordChar d = true := by
  have checked : ∀ n < 128, isWordChar (Char.ofNat n) = true →
      isBlank (Char.ofNat n) = false ∧ (lowerForm (Char.ofNat n)).isEmpty = false ∧
        (lowerForm (Char.ofNat n)).all isWordChar = true := by decide +kernel
  have found := forall_ascii (P := fun c => isWordChar c = true → isBlank c = false ∧
    (lowerForm c).isEmpty = false ∧ (lowerForm c).all isWordChar = true) checked
    (toNat_lt_of_isWordChar h) h
  simpa using found

end Text

namespace Naming

theorem isWord_snakeCase {name : String} (h : IsWord name) : IsWord (snakeCase .unicode name) := by
  rw [← isIdentifier_iff_isWord, isIdentifier_iff] at h ⊢
  obtain ⟨nonempty, word⟩ := h
  have visible := fun c hc => Text.lowerForm_of_isWordChar (word c hc)
  obtain ⟨c, hc⟩ := List.exists_mem_of_ne_nil name.toList (by simpa using nonempty)
  constructor
  · have written := snakeFrom_ne_nil (l := .unicode) hc (visible c hc).1 (visible c hc).2.1 none
      false
    simpa [snakeCase] using written
  · rw [snakeCase, String.toList_ofList]
    exact forall_snakeFrom (by decide) (fun c hc => (visible c hc).2.2) none false

theorem isWord_append {s t : String} (hs : IsWord s) (ht : ∀ c ∈ t.toList, isWordChar c = true) :
    IsWord (s ++ t) := by
  simp only [IsWord, ← isWordChar_iff] at hs ⊢
  constructor
  · simp [hs.1]
  · rw [String.toList_append, List.forall_mem_append]
    exact ⟨hs.2, ht⟩

theorem isIdentifier_relationKey {name : String} (h : IsWord name) :
    isIdentifier (relationKey name) = true := by
  have suffix : "_id".toList.all isWordChar = true := by decide
  exact (isIdentifier_iff_isWord _).2
    (isWord_append (isWord_snakeCase h) (List.all_eq_true.1 suffix))

theorem relationKey_ne_tableEntry (name : String) : relationKey name ≠ Statement.tableEntry := by
  intro h
  have chars := congrArg (fun s => s.toList.getLast?) h
  simp [relationKey, Statement.tableEntry] at chars

end Naming

structure Model.Conventional {α : Type} (m : Model α) : Prop where
  primaryKey : m.primaryKey? = none
  tableName : m.tableName? = none
  relationKey : m.relationKey? = none
  name : IsWord m.name

theorem Model.Conventional.metadata_eq {α : Type} {m : Model α} (h : m.Conventional) :
    m.metadata = ⟨defaultPrimaryKey, Naming.tableName m.name, Naming.relationKey m.name⟩ := by
  rw [metadata, h.primaryKey, h.tableName, h.relationKey]
  rfl

variable {σ α β γ : Type} {types : String → Metadata}

theorem Lookup.statement_eq (l : Lookup) (info : Metadata)
    (word : isIdentifier (l.column info) = true) (other : l.column info ≠ Statement.tableEntry)
    (style : PlaceholderStyle) (model : String) (value : Scalar) :
    l.statement style model info value = .ok ⟨l.text style info info.tableName, [value]⟩ := by
  rw [statement_eq_ok_iff, spliced_of_ne other]
  exact ⟨word, rfl⟩

namespace Operation

theorem foreignKey_of_scalar {child : Model α} {key : String} {fields : Fields Json} {j : Json}
    {id : Scalar} (there : fields.get? key = some j) (value : j ≠ .null)
    (scalar : Scalar.ofJson? j = some id) : foreignKey child key fields = .ok (some id) :=
  (foreignKey_eq_some_iff child).2 ⟨j, there, value, scalar⟩

section Conventional

variable {parent : Model α} {child : Model β} {fields : Fields Json} {id : Scalar}

theorem childrenWith_of_conventional (s : Settings) (hparent : parent.Conventional)
    (hchild : child.Conventional) {a : α} (data : parent.data a = .ok fields)
    (keyed : Model.Keyed parent.metadata fields id) (limit : Option Nat)
    (finish : Outcome → Except Error γ) :
    childrenWith s parent child a limit finish parent.metadata child.metadata =
      .ok (.send .reader ⟨"select * from " ++ Naming.tableName child.name ++ " where " ++
        Naming.relationKey parent.name ++ " = " ++ s.placeholder.marker 1 ++
          Statement.limitClause limit, [id]⟩ finish) := by
  have made : Statement.selectByColumn s.placeholder child.name child.metadata
      (Naming.relationKey parent.name) id limit = .ok ⟨"select * from " ++
        child.metadata.tableName ++ " where " ++ Naming.relationKey parent.name ++ " = " ++
          s.placeholder.marker 1 ++ Statement.limitClause limit, [id]⟩ :=
    Lookup.statement_eq (.byColumn (Naming.relationKey parent.name) limit) child.metadata
      (Naming.isIdentifier_relationKey hparent.name) (Naming.relationKey_ne_tableEntry _)
      s.placeholder child.name id
  rw [hchild.metadata_eq] at made
  rw [childrenWith, data, liftModel_ok, ok_bind, Model.requireKey_eq_ok_iff.2 keyed, liftModel_ok,
    ok_bind, hparent.metadata_eq, hchild.metadata_eq, made, ok_bind]

theorem findOneWith_of_conventional (s : Settings) (hparent : parent.Conventional) (id : Scalar) :
    findOneWith s parent id parent.metadata =
      .ok (.send .reader ⟨"select * from " ++ Naming.tableName parent.name ++ " where id = " ++
        s.placeholder.marker 1, [id]⟩ (hydrateFirst parent)) := by
  have word : isIdentifier "id" = true := by decide
  have other : "id" ≠ Statement.tableEntry := by decide
  have words (front : String) : front ++ " where " ++ "id" ++ " = " = front ++ " where id = " := by
    rw [String.append_assoc, String.append_assoc]
    rfl
  let info : Metadata := ⟨"id", Naming.tableName parent.name, Naming.relationKey parent.name⟩
  have made : Statement.selectByKey s.placeholder parent.name info id =
      .ok ⟨"select * from " ++ info.tableName ++ " where " ++ "id" ++ " = " ++
        s.placeholder.marker 1 ++ "", [id]⟩ :=
    Lookup.statement_eq .byKey info word other s.placeholder parent.name id
  rw [words, String.append_empty] at made
  rw [findOneWith, hparent.metadata_eq, Model.defaultPrimaryKey, made, ok_bind]

theorem belongsToWith_of_conventional (s : Settings) (hparent : parent.Conventional) {b : β}
    {j : Json} (data : child.data b = .ok fields)
    (there : fields.get? (Naming.relationKey parent.name) = some j) (value : j ≠ .null)
    (scalar : Scalar.ofJson? j = some id) :
    belongsToWith s child parent b parent.metadata =
      .ok (.send .reader ⟨"select * from " ++ Naming.tableName parent.name ++ " where id = " ++
        s.placeholder.marker 1, [id]⟩ (hydrateFirst parent)) := by
  have key : parent.metadata.relationKey = Naming.relationKey parent.name := by
    rw [hparent.metadata_eq]
  rw [belongsToWith, data, liftModel_ok, ok_bind, key, foreignKey_of_scalar there value scalar,
    ok_bind]
  exact findOneWith_of_conventional s hparent id

end Conventional

end Operation

namespace Orm

open Operation

theorem decided_known_of_coherent (o : Orm σ) (op : Operation α) {w : World σ}
    (coherent : w.cache.Coherent types) (stable : op.Stable types) :
    op.decided o.settings (o.known op w) = op.decided o.settings fun m => m.metadata := by
  have after := coherent_cacheAfter o.settings coherent stable
  unfold known Orm.metadata
  rw [cache_perform, decided_found o.settings after stable]

/-- Without names of their own a parent and its children are found from each other. The
children are those that hold the parent's key under the parent's relation key, and the
parent of a child is the one whose key the child holds there. Whatever the models are
called, neither way fails before its one statement is run. -/
theorem relations_by_convention (o : Orm σ) (w : World σ) (coherent : w.cache.Coherent types)
    {parent : Model α} {child : Model β} (hparent : parent.Conventional)
    (hchild : child.Conventional) (stable : parent.Stable types) (stable' : child.Stable types)
    {j : Json} {id : Scalar} (value : j ≠ .null) (scalar : Scalar.ofJson? j = some id) :
    let parents := Naming.snakeCase .unicode parent.name ++ "s"
    let children := Naming.snakeCase .unicode child.name ++ "s"
    let parentKey := Naming.snakeCase .unicode parent.name ++ "_id"
    let marker := o.settings.placeholder.marker 1
    (∀ a fields, parent.data a = .ok fields → fields.get? "id" = some j →
      o.Delivers (.hasMany parent child a) w .reader
        ⟨"select * from " ++ children ++ " where " ++ parentKey ++ " = " ++ marker, [id]⟩ ∧
      o.Delivers (.hasOne parent child a) w .reader
        ⟨"select * from " ++ children ++ " where " ++ parentKey ++ " = " ++ marker ++ " limit 1",
          [id]⟩) ∧
    ∀ b fields, child.data b = .ok fields → fields.get? parentKey = some j →
      o.Delivers (.belongsTo child parent b) w .reader
        ⟨"select * from " ++ parents ++ " where id = " ++ marker, [id]⟩ := by
  intro parents children parentKey marker
  refine ⟨?_, ?_⟩
  · intro a fields data there
    have keyed : Model.Keyed parent.metadata fields id := by
      rw [hparent.metadata_eq]
      exact ⟨j, there, value, scalar⟩
    have many := childrenWith_of_conventional o.settings hparent hchild data keyed none
      (hydrateAll child)
    have one := childrenWith_of_conventional o.settings hparent hchild data keyed (some 1)
      (hydrateFirst child)
    have unlimited : Statement.limitClause none = "" := rfl
    rw [unlimited, String.append_empty] at many
    constructor
    · have decided :=
        o.decided_known_of_coherent (.hasMany parent child a) coherent ⟨stable, stable'⟩
      exact delivers_of_decided (decided.trans many)
    · have decided :=
        o.decided_known_of_coherent (.hasOne parent child a) coherent ⟨stable, stable'⟩
      exact delivers_of_decided (decided.trans one)
  · intro b fields data there
    have found := belongsToWith_of_conventional o.settings hparent data there value scalar
    have decided :=
      o.decided_known_of_coherent (.belongsTo child parent b) coherent ⟨stable', stable⟩
    exact delivers_of_decided (decided.trans found)

theorem relations_by_convention_blog :
    let db : Connection Unit := connect ⟨"db", fun _ _ => (.ok .empty, ())⟩ []
    let o : Orm Unit := (Orm.new db).withSettings { placeholder := .dollar }
    let post : Model Json := .untyped "blog.BlogPost" "BlogPost"
    let comment : Model Json := .untyped "blog.Comment" "Comment"
    let types := fun key => if key = "blog.BlogPost" then post.metadata else comment.metadata
    let w : World Unit := ⟨Cache.reached [.resolve comment], .none, ()⟩
    let kept : Json := .obj [("id", .str "p5"), ("title", .str "Tea")]
    let reply : Json := .obj [("blog_post_id", .str "p5"), ("id", .null)]
    w.cache.Coherent types ∧ post.Conventional ∧ comment.Conventional ∧
      post.Stable types ∧ comment.Stable types ∧
      o.Delivers (.hasMany post comment kept) w .reader
        ⟨"select * from comments where blog_post_id = $1", [.text "p5"]⟩ ∧
      o.Delivers (.hasOne post comment kept) w .reader
        ⟨"select * from comments where blog_post_id = $1 limit 1", [.text "p5"]⟩ ∧
      o.Delivers (.belongsTo comment post reply) w .reader
        ⟨"select * from blog_posts where id = $1", [.text "p5"]⟩ := by
  intro db o post comment types w kept reply
  have hpost : post.Conventional := ⟨rfl, rfl, rfl, (isIdentifier_iff_isWord _).1 (by decide)⟩
  have hcomment : comment.Conventional := ⟨rfl, rfl, rfl, (isIdentifier_iff_isWord _).1 (by decide)⟩
  have stable : post.Stable types := (if_pos rfl).symm
  have stable' : comment.Stable types := (if_neg (by decide)).symm
  have coherent : w.cache.Coherent types :=
    Cache.coherent_reached (List.forall_mem_singleton.2 stable')
  have both := relations_by_convention o w coherent hpost hcomment stable stable'
    (j := .str "p5") nofun rfl
  have parentName : Naming.snakeCase .unicode post.name = "blog_post" := by decide +kernel
  have childName : Naming.snakeCase .unicode comment.name = "comment" := by decide +kernel
  rw [parentName, childName] at both
  obtain ⟨many, one⟩ := both.1 kept _ rfl rfl
  exact ⟨coherent, hpost, hcomment, stable, stable', many, one, both.2 reply _ rfl rfl⟩

end Orm

end SqlMapper

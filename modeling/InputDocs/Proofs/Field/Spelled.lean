import InputDocs.Proofs.Doc.OneLine
import InputDocs.Proofs.Field.Resolution
import InputDocs.Proofs.TypeExpr.SignatureRoundTrip

/-!
# Proofs.Field.Spelled -- fields of what has been read

An expression that was read from a text is made of lexemes (`TypeExpr.spelled_of_parse`), and so
are the keys and the comments of the properties that it declares, however deep
(`TypeExpr.spelled_properties`). A key is a word, so it has no line feed, and a comment gives
documentation whose directives are on one line each. Every field under one that is resolved from
what has been read is resolved from such a property (`Field.exists_spelled_of_child`), so a whole
tree has this (`Field.tidyBelow_of_within`).

The field at the root is the exception: its name is the name of the variable, which is any text.
What is said of its type name holds of it too, because a type name is made of what stands between
the underscores of the field's name (`Field.underscore_notMem_typeName`).
-/

namespace InputDocs

set_option autoImplicit false

/-! ## Declared properties -/

/-- The key and the comment of the property and every token of its value are lexemes. -/
structure Property.Spelled (property : Property TypeExpr) : Prop where
  key : (Token.word property.key).IsLexeme
  comment : ∀ comment ∈ property.comment, ∀ token ∈ comment.tokens, token.IsLexeme
  value : property.value.Spelled

namespace TypeExpr

variable {expr : TypeExpr} {properties : List (Property TypeExpr)}

theorem spelled_of_propertyTokens (spelled : ∀ token ∈ propertyTokens properties, token.IsLexeme) :
    ∀ property ∈ properties, property.Spelled := by
  induction properties with
  | nil =>
      intro property member
      cases member
  | cons first rest ih =>
      obtain ⟨comment, key, value⟩ := first
      rw [propertyTokens, List.forall_mem_append, List.forall_mem_append, List.forall_mem_cons,
        List.forall_mem_cons] at spelled
      obtain ⟨⟨commented, named, _, valued⟩, later⟩ := spelled
      refine List.forall_mem_cons.2 ⟨⟨named, ?_, valued⟩, ih later⟩
      intro found same
      obtain rfl : comment = some found := same
      exact commented

theorem spelled_literal? (spelled : expr.Spelled) (found : expr.literal? = some properties) :
    ∀ property ∈ properties, property.Spelled := by
  have ofObject {properties : List (Property TypeExpr)} (spelled : (object properties).Spelled) :
      ∀ property ∈ properties, property.Spelled := by
    rw [Spelled, tokens, List.forall_mem_cons, List.forall_mem_append] at spelled
    exact spelled_of_propertyTokens spelled.2.1
  unfold literal? at found
  split at found
  · cases found
    exact ofObject spelled
  · split at found
    · cases found
      exact ofObject ((spelled_call.1 spelled).2 _ List.mem_cons_self)
    · cases found
  · cases found

theorem spelled_expansion? {collection : Collection} (spelled : expr.Spelled)
    (found : expr.expansion? = some (collection, properties)) :
    ∀ property ∈ properties, property.Spelled := by
  unfold expansion? at found
  split at found
  · rename_i literal
    cases found
    exact spelled_literal? spelled literal
  · split at found
    · split at found
      · cases found
      · obtain ⟨inside, literal, same⟩ := Option.map_eq_some_iff.1 found
        cases same
        exact spelled_literal? ((spelled_call.1 spelled).2 _ List.mem_cons_self) literal
    · cases found

theorem spelled_core {expr left : TypeExpr} (spelled : expr.Spelled) (found : expr.core = some left) :
    left.Spelled := by
  induction expr using peeling_induction with
  | plain expr peeled =>
      rw [core_of_plain peeled] at found
      cases found
      exact spelled
  | bare =>
      rw [core_of_bare (optional?_call [])] at found
      cases found
  | optional inner others ih =>
      rw [core_of_optional (optional?_call _)] at found
      exact ih ((spelled_call.1 spelled).2 _ List.mem_cons_self) found

/-- What an expression declares is spelled like the expression. -/
theorem spelled_properties (spelled : expr.Spelled) :
    ∀ property ∈ expr.properties, property.Spelled := by
  unfold properties
  cases left : expr.core with
  | none =>
      intro property member
      cases member
  | some core =>
      rw [Option.bind_some]
      cases expanded : core.expansion? with
      | none =>
          intro property member
          cases member
      | some found => exact spelled_expansion? (spelled_core spelled left) expanded

theorem spelled_of_parse {maxDepth : Nat} {text : String}
    (answered : parse maxDepth text = .ok expr) : expr.Spelled := by
  obtain ⟨placed, read, written, _⟩ := parse_eq_ok_iff.1 answered
  rw [Spelled, ← written]
  intro token member
  obtain ⟨one, among, rfl⟩ := List.mem_map.1 member
  exact Token.tokenizeFrom_isLexeme read one among

end TypeExpr

/-! ## Fields -/

namespace Field

/-- A caseless character of a type name stands between underscores of the name. -/
theorem notMem_typeName {mark : Char} {name : String} (fixed : mark ∈ Unicode.caseless)
    (absent : ∀ part ∈ name.toList.splitOn '_', mark ∉ part) : mark ∉ (typeName name).toList := by
  have joined : mark ∉ (name.toList.splitOn '_').flatMap Unicode.capitalize := by
    intro member
    obtain ⟨part, among, capital⟩ := List.mem_flatMap.1 member
    exact Unicode.notMem_capitalize fixed (absent part among) capital
  unfold typeName
  dsimp only
  split
  · rcases Unicode.mem_caseless_iff.1 fixed with rfl | rfl | rfl | rfl <;> decide
  · rw [String.toList_ofList]
    exact joined

theorem underscore_notMem_typeName (name : String) : '_' ∉ (typeName name).toList :=
  notMem_typeName (by decide) fun _ => Text.notMem_of_mem_splitOn

theorem feed_notMem_typeName {name : String} (single : '\n' ∉ name.toList) :
    '\n' ∉ (typeName name).toList :=
  notMem_typeName (by decide) fun _ among => mt (Text.mem_of_mem_splitOn among) single

theorem notMem_of_word {c : Char} {name : String} (other : Token.isWordPart c = false)
    (word : (Token.word name).IsLexeme) : c ∉ name.toList := by
  intro member
  exact Bool.noConfusion (other.symm.trans (Token.isWordPart_of_isWord word c member))

variable [PatternEngine] {policy : DuplicatePolicy} {property : Property TypeExpr}
  {field inner : Field}

theorem oneLine_of_resolve
    (commented : ∀ comment ∈ property.comment, ∀ token ∈ comment.tokens, token.IsLexeme)
    (done : (resolve policy property).outcome = .ok field) : field.doc.OneLine := by
  obtain ⟨_, _, documented, _⟩ := resolve_ok_iff.1 done
  rw [documented]
  cases found : property.comment with
  | none =>
      intro directive member
      cases member
  | some comment => exact Doc.ofComment_oneLine (commented comment found)

/-- The names and the directives of the fields in a table are on one line each, and so are the
directives of the table itself. -/
structure TidyBelow (field : Field) : Prop where
  doc : field.doc.OneLine
  children : ∀ child ∈ field.children, '\n' ∉ child.name.toList ∧ child.doc.OneLine

/-- A field under one that is resolved from what has been read is resolved from what has been read
itself. -/
theorem exists_spelled_of_child {child : Field} (spelled : property.value.Spelled)
    (done : (resolve policy property).outcome = .ok field) (within : Within inner field)
    (below : child ∈ inner.children) :
    ∃ source : Property TypeExpr, source.Spelled ∧ (resolve policy source).outcome = .ok child := by
  induction within generalizing property with
  | self =>
      obtain ⟨source, among, resolved⟩ := exists_property_of_child done below
      exact ⟨source, TypeExpr.spelled_properties spelled source among, resolved⟩
  | child member _ ih =>
      obtain ⟨source, among, resolved⟩ := exists_property_of_child done member
      exact ih (TypeExpr.spelled_properties spelled source among).value resolved

/-- Every field of a tree that is resolved from what has been read. -/
theorem tidyBelow_of_within
    (commented : ∀ comment ∈ property.comment, ∀ token ∈ comment.tokens, token.IsLexeme)
    (spelled : property.value.Spelled) (done : (resolve policy property).outcome = .ok field)
    (within : Within inner field) : inner.TidyBelow := by
  refine ⟨?_, ?_⟩
  · rcases within.eq_or_child with rfl | ⟨parent, above, member⟩
    · exact oneLine_of_resolve commented done
    · obtain ⟨source, ⟨_, commented, _⟩, resolved⟩ :=
        exists_spelled_of_child spelled done above member
      exact oneLine_of_resolve commented resolved
  · intro child below
    obtain ⟨source, ⟨key, commented, _⟩, resolved⟩ :=
      exists_spelled_of_child spelled done within below
    refine ⟨?_, oneLine_of_resolve commented resolved⟩
    rw [(resolve_ok_iff.1 resolved).2.1]
    exact notMem_of_word (by decide) key

end Field

end InputDocs

import InputDocs.Proofs.Field.Expansion
import InputDocs.Proofs.TypeExpr.Rewording
import InputDocs.Proofs.TypeExpr.Structure

/-!
# Proofs.Field.Rewording -- a resolution sees only what comments say

A resolution makes the comment before a property into the documentation of the field and does not
use comments for anything else. So where a rewording keeps the documentation of every comment
(`Rewording.KeepsDocs`), the resolution of a reworded property is that of the property, with the
same events (`Field.resolve_reword`), and so is that of a declaration (`Field.resolveGroup_reword`).

The shape of an expression, its signature and its defaults are read off without looking at
comments at all, which is shown first.
-/

namespace InputDocs

set_option autoImplicit false

/-- Every comment says what it said before. -/
def Rewording.KeepsDocs [PatternEngine] (change : Rewording) : Prop :=
  ∀ comment : Comment, Doc.ofComment (comment.reword change) = Doc.ofComment comment

/-! ## Shapes and signatures -/

namespace TypeExpr

variable (change : Rewording)

theorem signatures_map_of_forall {f : TypeExpr → TypeExpr} {arguments : List TypeExpr}
    (each : ∀ argument ∈ arguments, (f argument).signature = argument.signature) :
    signatures (arguments.map f) = signatures arguments := by
  induction arguments with
  | nil => rfl
  | cons first rest ih =>
      obtain ⟨here, others⟩ := List.forall_mem_cons.1 each
      rw [List.map_cons, signatures, signatures, here, ih others]

theorem signature_reword (expr : TypeExpr) :
    (expr.reword change).signature = expr.signature := by
  induction expr using nested_induction with
  | call name arguments each =>
      rw [reword_call, signature, signature, signatures_map_of_forall each]
  | object properties each => rw [reword_object, signature_object, signature_object]
  | word name => rfl
  | number text => rfl
  | quoted text => rfl

theorem optional?_reword (expr : TypeExpr) :
    (expr.reword change).optional? = expr.optional?.map (List.map (reword change)) := by
  cases expr with
  | call name arguments =>
      rw [reword_call, optional?, optional?]
      split <;> rfl
  | object properties =>
      rw [reword_object]
      rfl
  | _ => rfl

theorem literal?_reword (expr : TypeExpr) :
    (expr.reword change).literal? = expr.literal?.map (List.map (Property.reword change)) := by
  cases expr with
  | call name arguments =>
      rw [reword_call]
      match arguments with
      | [object properties] =>
          rw [List.map_singleton, reword_object, literal?, literal?]
          split <;> rfl
      | [call inner arguments] =>
          rw [List.map_singleton, reword_call]
          rfl
      | first :: second :: rest =>
          have several (one two : TypeExpr) (more : List TypeExpr) :
              (call name (one :: two :: more)).literal? = none := by
            cases one <;> rfl
          rw [several, Option.map_none]
          exact several _ _ _
      | [] | [word _] | [number _] | [quoted _] => rfl
  | object properties =>
      rw [reword_object]
      rfl
  | _ => rfl

theorem expansion?_reword (expr : TypeExpr) :
    (expr.reword change).expansion? =
      expr.expansion?.map (Prod.map id (List.map (Property.reword change))) := by
  unfold expansion?
  rw [literal?_reword]
  cases expr.literal? with
  | some properties => rfl
  | none =>
      cases expr with
      | call name arguments =>
          rw [reword_call]
          match arguments with
          | [inner] =>
              simp only [List.map_singleton, literal?_reword, Option.map_none, Option.map_map]
              split
              · rfl
              · rw [Option.map_map]
                rfl
          | [] | _ :: _ :: _ => rfl
      | object properties =>
          rw [reword_object]
          rfl
      | _ => rfl

end TypeExpr

namespace Field

variable {change : Rewording} {policy : DuplicatePolicy}

theorem defaultText_reword (change : Rewording) (expr : TypeExpr) :
    defaultText (expr.reword change) = defaultText expr := by
  cases expr with
  | object properties =>
      rw [TypeExpr.reword_object]
      cases properties <;> rfl
  | call name arguments =>
      have shown := TypeExpr.signature_reword change (.call name arguments)
      rw [TypeExpr.reword_call] at shown ⊢
      exact congrArg pure shown
  | _ => rfl

theorem callCollection_reword (change : Rewording) (expr : TypeExpr) :
    callCollection (expr.reword change) = callCollection expr := by
  cases expr with
  | call name arguments =>
      rw [TypeExpr.reword_call]
      rfl
  | object properties =>
      rw [TypeExpr.reword_object]
      rfl
  | _ => rfl

theorem outerCollection_reword (change : Rewording) (root : TypeExpr) :
    outerCollection (root.reword change) = outerCollection root := by
  rw [outerCollection, outerCollection, TypeExpr.optional?_reword]
  cases root.optional? with
  | none => exact callCollection_reword change root
  | some arguments =>
      cases arguments with
      | nil => rfl
      | cons inner others => exact callCollection_reword change inner

variable [PatternEngine]

theorem resolveAll_reword {properties : List (Property TypeExpr)}
    (each : ∀ property ∈ properties,
      resolve policy (property.reword change) = resolve policy property) (fields : List Field) :
    resolveAll policy fields (properties.map (Property.reword change)) =
      resolveAll policy fields properties := by
  induction properties generalizing fields with
  | nil => rfl
  | cons property rest ih =>
      obtain ⟨here, others⟩ := List.forall_mem_cons.1 each
      simp only [List.map_cons, resolveAll, here, ih others]
      rfl

theorem resolveType_reword (name : String) {expr : TypeExpr}
    (each : ∀ property ∈ expr.properties,
      resolve policy (property.reword change) = resolve policy property) :
    resolveType policy name (expr.reword change) = resolveType policy name expr := by
  induction expr using TypeExpr.peeling_induction with
  | plain expr plain =>
      have still : (expr.reword change).optional? = none := by
        rw [TypeExpr.optional?_reword, plain, Option.map_none]
      rw [resolveType_plain policy name plain, resolveType_plain policy name still,
        TypeExpr.expansion?_reword, TypeExpr.signature_reword]
      rw [TypeExpr.properties_plain plain] at each
      cases expanded : expr.expansion? with
      | none => rfl
      | some expansion =>
          obtain ⟨collection, literal⟩ := expansion
          cases literal with
          | nil => rfl
          | cons first rest =>
              rw [expanded] at each
              have all : resolveAll policy [] ((first :: rest).map (Property.reword change)) =
                  resolveAll policy [] (first :: rest) := resolveAll_reword each []
              rw [List.map_cons] at all
              simp only [Option.map_some, Prod.map, List.map_cons, id, all]
  | bare => rw [TypeExpr.reword_call, List.map_nil]
  | optional inner others ih =>
      rw [TypeExpr.properties_optional] at each
      rw [TypeExpr.reword_call, List.map_cons, resolveType_optional, resolveType_optional, ih each,
        List.length_map]
      cases others with
      | nil => rfl
      | cons default more => simp only [List.map_cons, defaultText_reword]

/-- **A reworded property is resolved as before**, if its comments say what they said. -/
theorem resolve_reword (keeps : change.KeepsDocs) (property : Property TypeExpr) :
    resolve policy (property.reword change) = resolve policy property := by
  induction property using Property.declared_induction with
  | step property each =>
      have doc : ((property.reword change).comment.map Doc.ofComment).getD .empty =
          (property.comment.map Doc.ofComment).getD .empty := by
        cases property with
        | mk comment key value =>
            cases comment with
            | none => rfl
            | some comment => exact keeps comment
      rw [resolve, resolve, doc]
      change (resolveType policy property.key (property.value.reword change) >>= _) = _
      rw [resolveType_reword property.key each]
      rfl

theorem resolveGroup_reword (keeps : change.KeepsDocs) (root : TypeExpr) (name : String) :
    resolveGroup policy (root.reword change) name = resolveGroup policy root name := by
  cases root with
  | call callName arguments =>
      have type : resolveType policy name ((TypeExpr.call callName arguments).reword change) =
          resolveType policy name (.call callName arguments) :=
        resolveType_reword name fun property _ => resolve_reword keeps property
      have outer := outerCollection_reword change (.call callName arguments)
      rw [TypeExpr.reword_call] at type outer ⊢
      simp only [resolveGroup, type, outer]
  | object properties =>
      rw [TypeExpr.reword_object]
      rfl
  | _ => rfl

end Field

end InputDocs

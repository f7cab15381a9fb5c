import InputDocs.Proofs.Field.Resolution

/-!
# Proofs.Field.Wrapper -- the collection a declaration is recorded with

The collection around an object type is worked out twice. Resolution peels off every call of
`optional` and takes the collection from what is left (`TypeExpr.innerCollection`); it is the one in
the signature (`Field.signature_of_resolve`). A group records the collection that the declaration is
written as, which looks through one call of `optional` and no further (`Field.outerCollection_eq`).

So the two agree unless a map or a list stands in two or more calls of `optional`. There nothing is
recorded, while the signature still has the map or the list (`Field.signature_eq_wrap_iff`).
-/

namespace InputDocs

set_option autoImplicit false

/-- How much longer a signature gets inside the collection. -/
theorem Collection.length_wrap (collection : Collection) (inner : String) :
    (collection.wrap inner).length =
      inner.length + match collection with | none => 0 | map => 5 | list => 6 := by
  have marks : "map".length = 3 ∧ "list".length = 4 ∧ "(".length = 1 ∧ ")".length = 1 := by decide
  cases collection with
  | none => rfl
  | map =>
      simp only [wrap, text, String.length_append]
      omega
  | list =>
      simp only [wrap, text, String.length_append]
      omega

theorem Collection.wrap_injective (inner : String) :
    Function.Injective fun collection : Collection => collection.wrap inner := by
  intro first second same
  have lengths := congrArg String.length same
  simp only [length_wrap] at lengths
  cases first <;> cases second <;> simp at lengths ⊢

namespace TypeExpr

/-- How many calls of `optional` are around an expression. -/
def optionals (expr : TypeExpr) : Nat :=
  match _peeled : expr.optional? with
  | some [] => 1
  | some (inner :: _) => inner.optionals + 1
  | none => 0
termination_by sizeOf expr
decreasing_by exact sizeOf_of_optional? _peeled

/-- The collection that is left when the calls of `optional` are peeled off. -/
def innerCollection (expr : TypeExpr) : Collection :=
  (expr.core.map Field.callCollection).getD .none

theorem optionals_of_plain {expr : TypeExpr} (plain : expr.optional? = none) :
    expr.optionals = 0 := by
  rw [optionals]
  split <;> simp_all

theorem optionals_call (inner : TypeExpr) (others : List TypeExpr) :
    (call "optional" (inner :: others)).optionals = inner.optionals + 1 := by
  rw [optionals]
  split <;> simp_all [optional?]

theorem optionals_pos {expr : TypeExpr} {arguments : List TypeExpr}
    (peeled : expr.optional? = some arguments) : 0 < expr.optionals := by
  rw [eq_of_optional? peeled]
  cases arguments with
  | nil =>
      rw [optionals]
      split <;> simp_all [optional?]
  | cons inner others =>
      rw [optionals_call]
      exact Nat.succ_pos _

theorem callCollection_of_optional? {expr : TypeExpr} {arguments : List TypeExpr}
    (peeled : expr.optional? = some arguments) : Field.callCollection expr = .none := by
  rw [eq_of_optional? peeled]
  rfl

/-- An expression that is expanded is the collection that its call makes. -/
theorem callCollection_of_expansion? {expr : TypeExpr} {collection : Collection}
    {properties : List (Property TypeExpr)}
    (found : expr.expansion? = some (collection, properties)) :
    Field.callCollection expr = collection := by
  unfold expansion? at found
  split at found
  · rename_i literal
    cases found
    unfold literal? at literal
    split at literal
    · rfl
    · split at literal
      · rename_i named
        rw [named]
        rfl
      · cases literal
    · cases literal
  · split at found
    · split at found
      · cases found
      · obtain ⟨_, _, same⟩ := Option.map_eq_some_iff.1 found
        cases same
        rfl
    · cases found

end TypeExpr

namespace Field

variable [PatternEngine] {policy : DuplicatePolicy}

/-- What is expanded is left in the collection that the calls of `optional` are around. -/
theorem innerCollection_of_typeOf {name type : String} {expr : TypeExpr} {collection : Collection}
    {children : List Field}
    (typed : typeOf policy name expr.core = .ok (.nested collection type children)) :
    expr.innerCollection = collection := by
  unfold TypeExpr.innerCollection
  cases left : expr.core with
  | none =>
      rw [left] at typed
      cases typed
  | some core =>
      rw [left, typeOf] at typed
      rw [Option.map_some, Option.getD_some]
      split at typed
      · cases typed
      · rename_i found first rest expanded
        cases resolved : (resolveAll policy [] (first :: rest)).outcome with
        | error error =>
            rw [resolved] at typed
            cases typed
        | ok fields =>
            rw [resolved] at typed
            cases typed
            exact TypeExpr.callCollection_of_expansion? expanded
      · cases typed

/-- **The collection in a signature** is what is left when every `optional` is peeled off. -/
theorem signature_of_resolve {property : Property TypeExpr} {field : Field} {type : String}
    (done : (resolve policy property).outcome = .ok field) (named : field.typeName? = some type) :
    field.signature = property.value.innerCollection.wrap (objectSignature type) := by
  obtain ⟨typed, _⟩ := resolve_ok_iff.1 done
  obtain ⟨name, doc, fieldType, presence⟩ := field
  cases fieldType with
  | plain signature => cases named
  | nested collection typeName children =>
      obtain rfl := Option.some_inj.1 named
      rw [innerCollection_of_typeOf typed]
      rfl

omit [PatternEngine] in
/-- **The collection that is recorded** is the same for at most one `optional`, and none beyond. -/
theorem outerCollection_eq (root : TypeExpr) :
    outerCollection root = if root.optionals ≤ 1 then root.innerCollection else .none := by
  unfold outerCollection TypeExpr.innerCollection
  cases peeled : root.optional? with
  | none =>
      rw [TypeExpr.optionals_of_plain peeled, TypeExpr.core_of_plain peeled]
      rfl
  | some arguments =>
      cases arguments with
      | nil =>
          rw [TypeExpr.core_of_bare peeled]
          exact (ite_self _).symm
      | cons inner others =>
          rw [TypeExpr.core_of_optional peeled, TypeExpr.eq_of_optional? peeled,
            TypeExpr.optionals_call]
          cases again : inner.optional? with
          | none =>
              rw [TypeExpr.optionals_of_plain again, TypeExpr.core_of_plain again]
              rfl
          | some more =>
              have second := TypeExpr.optionals_pos again
              rw [if_neg (by omega)]
              exact TypeExpr.callCollection_of_optional? again

theorem collection_of_resolveGroup {root : TypeExpr} {name : String} {group : Group}
    (done : (resolveGroup policy root name).outcome = .ok (some group)) :
    group.collection = outerCollection root := by
  unfold resolveGroup at done
  split at done
  · split at done
    · rw [Traced.outcome_bind] at done
      cases resolved : (resolveType policy name (.call _ _)).outcome with
      | error error =>
          rw [resolved] at done
          cases done
      | ok found =>
          rw [resolved] at done
          cases done
          rfl
    · cases done
  · cases done

/-- **A group's signature is its object type in the recorded collection** exactly if no map or
list stands in two or more calls of `optional`. -/
theorem signature_eq_wrap_iff {root : TypeExpr} {name type : String} {group : Group}
    (done : (resolveGroup policy root name).outcome = .ok (some group))
    (named : group.field.typeName? = some type) :
    group.field.signature = group.collection.wrap (objectSignature type) ↔
      root.optionals ≤ 1 ∨ root.innerCollection = .none := by
  have shown := signature_of_resolve (resolve_of_resolveGroup done) named
  rw [shown, collection_of_resolveGroup done, (Collection.wrap_injective _).eq_iff,
    outerCollection_eq]
  by_cases single : root.optionals ≤ 1
  · rw [if_pos single]
    exact iff_of_true rfl (.inl single)
  · rw [if_neg single, or_iff_right single]

omit [PatternEngine] in
/-- A list of objects that may be left out. -/
theorem optionalList_wrapped :
    let _ : PatternEngine := .lenient
    let root : TypeExpr :=
      .call "optional" [.call "list" [.object [⟨none, "port", .word "number"⟩]]]
    let type : FieldType Field :=
      .nested .list "Rules" [⟨"port", .empty, .plain "number", .required⟩]
    let group : Group := ⟨⟨"rules", .empty, type, .optional none⟩, .list⟩
    (resolveGroup .reject root "rules").outcome = .ok (some group) ∧
      group.field.typeName? = some "Rules" ∧
        group.field.signature = group.collection.wrap (objectSignature "Rules") := by
  intro _ root type group
  have done : (resolveGroup .reject root "rules").outcome = .ok (some group) := by
    with_unfolding_all rfl
  have peeled : root.optionals ≤ 1 := by
    with_unfolding_all decide
  exact ⟨done, rfl, (signature_eq_wrap_iff done rfl).2 (.inl peeled)⟩

omit [PatternEngine] in
/-- A map in two calls of `optional`: it is in the signature and is not recorded. -/
theorem twiceOptionalMap_unwrapped :
    let _ : PatternEngine := .lenient
    let root : TypeExpr := .call "optional" [.call "optional" [.call "map"
      [.object [⟨none, "port", .word "number"⟩]]]]
    ∃ group, (resolveGroup .lastWins root "rules").outcome = .ok (some group) ∧
      group.field.typeName? = some "Rules" ∧ group.collection = .none ∧
        group.field.signature = "map(object(Rules))" ∧
          group.field.signature ≠ group.collection.wrap (objectSignature "Rules") := by
  intro _ root
  let type : FieldType Field := .nested .map "Rules" [⟨"port", .empty, .plain "number", .required⟩]
  let group : Group := ⟨⟨"rules", .empty, type, .optional none⟩, .none⟩
  have done : (resolveGroup .lastWins root "rules").outcome = .ok (some group) := by
    with_unfolding_all rfl
  exact ⟨group, done, rfl, rfl, by decide, by decide⟩

end Field

end InputDocs

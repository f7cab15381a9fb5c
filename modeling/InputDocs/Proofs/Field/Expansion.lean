import InputDocs.Proofs.Field.Resolution

/-!
# Proofs.Field.Expansion -- which object literals are expanded, and the keys they repeat

An expression expands an object literal by its shape alone: the literal is the whole expression,
bare or as the only argument of `object`, or the only argument of `map` or `list` is such a one,
and calls of `optional` may be around it, which are looked through at their first arguments
(`TypeExpr.Expands`). A literal in another call or in a default is not expanded. What the
resolution finds by peeling and matching is this literal (`TypeExpr.properties_of_expands`,
`TypeExpr.expands_properties`).

The values of its properties expand literals in turn (`TypeExpr.Reaches`). `TypeExpr.repeats` walks
through them in the order of resolution and lists the keys that it meets again; there are none
exactly if no literal on the way repeats a key (`TypeExpr.repeats_eq_nil_iff`).
-/

namespace InputDocs

set_option autoImplicit false

namespace TypeExpr

/-! ## Expanded literals -/

/-- The expression is the object literal, or a call of `object` with it as the only argument. -/
inductive IsLiteral : TypeExpr → List (Property TypeExpr) → Prop
  | bare (properties : List (Property TypeExpr)) : IsLiteral (.object properties) properties
  | wrapped (properties : List (Property TypeExpr)) :
      IsLiteral (.call "object" [.object properties]) properties

/-- The expression expands the object literal. -/
inductive Expands : TypeExpr → List (Property TypeExpr) → Prop
  | alone {expr : TypeExpr} {literal : List (Property TypeExpr)} (is : IsLiteral expr literal) :
      Expands expr literal
  | collection {name : String} {inner : TypeExpr} {literal : List (Property TypeExpr)}
      (named : name = "map" ∨ name = "list") (is : IsLiteral inner literal) :
      Expands (.call name [inner]) literal
  | optional {inner : TypeExpr} {literal : List (Property TypeExpr)} (others : List TypeExpr)
      (expands : Expands inner literal) : Expands (.call "optional" (inner :: others)) literal

/-- The expression expands the object literal, or a property of one that it expands has a value
that reaches it. -/
inductive Reaches : TypeExpr → List (Property TypeExpr) → Prop
  | own {expr : TypeExpr} {literal : List (Property TypeExpr)} (expands : expr.Expands literal) :
      Reaches expr literal
  | inside {expr : TypeExpr} {outer literal : List (Property TypeExpr)}
      {property : Property TypeExpr} (expands : expr.Expands outer) (among : property ∈ outer)
      (reaches : Reaches property.value literal) : Reaches expr literal

variable {expr : TypeExpr} {literal : List (Property TypeExpr)}

theorem isLiteral_iff : expr.IsLiteral literal ↔ expr.literal? = some literal := by
  constructor
  · intro is
    cases is with
    | bare => rfl
    | wrapped => simp [literal?]
  · intro found
    unfold literal? at found
    split at found
    · obtain rfl := Option.some_inj.1 found
      exact .bare _
    · split at found
      · rename_i named
        obtain rfl := named
        obtain rfl := Option.some_inj.1 found
        exact .wrapped _
      · cases found
    · cases found

theorem not_isLiteral_call {name : String} {arguments : List TypeExpr} (other : name ≠ "object") :
    ¬ IsLiteral (call name arguments) literal := by
  intro is
  generalize same : call name arguments = expr at is
  cases is with
  | bare => cases same
  | wrapped => exact other (call.inj same).1

theorem isCollection_iff {name : String} :
    Collection.ofCall name ≠ .none ↔ name = "map" ∨ name = "list" := by
  unfold Collection.ofCall
  split
  · simp_all
  · split <;> simp_all

theorem literal?_of_isCollection {name : String} {arguments : List TypeExpr}
    (named : name = "map" ∨ name = "list") : (call name arguments).literal? = none := by
  have other : name ≠ "object" := by
    rcases named with rfl | rfl <;> decide
  rw [Option.eq_none_iff_forall_ne_some]
  intro literal found
  exact not_isLiteral_call other (isLiteral_iff.2 found)

/-- Where no `optional` is around an expression, its shape says what is expanded. -/
theorem exists_expansion?_iff (plain : expr.optional? = none) :
    (∃ collection, expr.expansion? = some (collection, literal)) ↔ expr.Expands literal := by
  constructor
  · rintro ⟨collection, found⟩
    unfold expansion? at found
    split at found
    · rename_i same
      cases found
      exact .alone (isLiteral_iff.2 same)
    · split at found
      · split at found
        · cases found
        · rename_i named
          obtain ⟨properties, same, rest⟩ := Option.map_eq_some_iff.1 found
          cases rest
          exact .collection (isCollection_iff.1 named) (isLiteral_iff.2 same)
      · cases found
  · intro expands
    cases expands with
    | alone is => exact ⟨.none, by simp only [expansion?, isLiteral_iff.1 is]⟩
    | @collection name inner _ named is =>
        refine ⟨Collection.ofCall name, ?_⟩
        simp only [expansion?, literal?_of_isCollection named, if_neg (isCollection_iff.2 named),
          isLiteral_iff.1 is, Option.map_some]
    | optional others expands =>
        rw [optional?_call] at plain
        cases plain

/-- A call of `optional` expands what its first argument does. -/
theorem expands_optional_iff {inner : TypeExpr} {others : List TypeExpr} :
    (call "optional" (inner :: others)).Expands literal ↔ inner.Expands literal := by
  constructor
  · intro expands
    cases expands with
    | alone is => exact absurd is (not_isLiteral_call (by decide))
    | collection named is => simp at named
    | optional others expands => exact expands
  · exact .optional others

/-- What is left when `optional` is peeled off has the same shape. -/
theorem exists_core_iff (expr : TypeExpr) :
    (∃ collection, expr.core.bind expansion? = some (collection, literal)) ↔
      expr.Expands literal := by
  induction expr using peeling_induction with
  | plain expr peeled =>
      rw [core_of_plain peeled, Option.bind_some]
      exact exists_expansion?_iff peeled
  | bare =>
      rw [core_of_bare (optional?_call []), Option.bind_none]
      constructor
      · rintro ⟨collection, found⟩
        cases found
      · intro expands
        cases expands with
        | alone is => exact absurd is (not_isLiteral_call (by decide))
  | optional inner others ih =>
      rw [core_of_optional (optional?_call _), expands_optional_iff]
      exact ih

/-- The properties that an expression declares are those of the literal it expands. -/
theorem properties_of_expands (expands : expr.Expands literal) : expr.properties = literal := by
  obtain ⟨collection, found⟩ := (exists_core_iff expr).2 expands
  rw [properties, found]
  rfl

theorem expands_properties (filled : expr.properties ≠ []) : expr.Expands expr.properties := by
  rw [← exists_core_iff]
  unfold properties at filled ⊢
  cases found : expr.core.bind expansion? with
  | none =>
      rw [found] at filled
      exact absurd rfl filled
  | some expansion => exact ⟨expansion.1, rfl⟩

/-! ## Declared properties are no larger -/

theorem sizeOf_of_core {left : TypeExpr} (found : expr.core = some left) :
    sizeOf left ≤ sizeOf expr := by
  induction expr using peeling_induction with
  | plain expr peeled =>
      rw [core_of_plain peeled] at found
      cases found
      exact Nat.le_refl _
  | bare =>
      rw [core_of_bare (optional?_call [])] at found
      cases found
  | optional inner others ih =>
      rw [core_of_optional (optional?_call _)] at found
      have inside := ih found
      simp only [call.sizeOf_spec, List.cons.sizeOf_spec]
      omega

theorem sizeOf_properties_le (expr : TypeExpr) : sizeOf expr.properties ≤ sizeOf expr := by
  unfold properties
  cases found : expr.core.bind expansion? with
  | none =>
      have some_size : 1 ≤ sizeOf expr := by
        cases expr <;> simp only [call.sizeOf_spec, object.sizeOf_spec, word.sizeOf_spec,
          number.sizeOf_spec, quoted.sizeOf_spec] <;> omega
      exact some_size
  | some expansion =>
      obtain ⟨collection, literal⟩ := expansion
      obtain ⟨left, peeled, expanded⟩ := Option.bind_eq_some_iff.1 found
      have inside : sizeOf literal < sizeOf left := sizeOf_of_expansion? expanded
      exact Nat.le_trans (Nat.le_of_lt inside) (sizeOf_of_core peeled)

end TypeExpr

/-- What holds of a property whenever it holds of those that its value declares holds of every
property. -/
theorem Property.declared_induction {motive : Property TypeExpr → Prop}
    (step : ∀ property, (∀ inner ∈ property.value.properties, motive inner) → motive property)
    (property : Property TypeExpr) : motive property := by
  refine step property ?_
  intro inner among
  have smaller : sizeOf inner < sizeOf property := by
    have below := List.sizeOf_lt_of_mem among
    have whole := property.value.sizeOf_properties_le
    have value : sizeOf property.value < sizeOf property := by
      cases property
      simp only [Property.mk.sizeOf_spec]
      omega
    omega
  exact declared_induction step inner
termination_by sizeOf property

namespace TypeExpr

/-! ## The keys that are met again -/

mutual

/-- The keys that object literals repeat, each time one is met again, in the order of resolution:
those in the value of a property come before the key of the property itself. -/
def repeats (expr : TypeExpr) : List String := repeatsAmong [] expr.properties
termination_by 2 * sizeOf expr + 1
decreasing_by
  have smaller := sizeOf_properties_le expr
  omega

/-- The keys that are met again in properties, after properties with the keys `seen`. -/
def repeatsAmong (seen : List String) : List (Property TypeExpr) → List String
  | [] => []
  | ⟨_, key, value⟩ :: rest =>
    value.repeats ++ (if key ∈ seen then [key] else []) ++ repeatsAmong (key :: seen) rest
termination_by properties => 2 * sizeOf properties

end

theorem repeats_eq (expr : TypeExpr) : expr.repeats = repeatsAmong [] expr.properties := by
  rw [repeats]

theorem repeatsAmong_nil (seen : List String) : repeatsAmong seen [] = [] := by
  rw [repeatsAmong]

theorem repeatsAmong_cons (seen : List String) (property : Property TypeExpr)
    (rest : List (Property TypeExpr)) :
    repeatsAmong seen (property :: rest) =
      property.value.repeats ++ (if property.key ∈ seen then [property.key] else []) ++
        repeatsAmong (property.key :: seen) rest := by
  rw [repeatsAmong]

theorem repeatsAmong_eq_nil_iff {seen : List String} {properties : List (Property TypeExpr)} :
    repeatsAmong seen properties = [] ↔
      (∀ property ∈ properties, property.value.repeats = []) ∧
        (properties.map Property.key).Nodup ∧ ∀ property ∈ properties, property.key ∉ seen := by
  induction properties generalizing seen with
  | nil => simp [repeatsAmong_nil]
  | cons first rest ih =>
      have own : (if first.key ∈ seen then [first.key] else []) = [] ↔ first.key ∉ seen := by
        split <;> simp_all
      rw [repeatsAmong_cons, List.append_eq_nil_iff, List.append_eq_nil_iff, ih, own,
        List.map_cons, List.nodup_cons, List.forall_mem_cons, List.forall_mem_cons]
      constructor
      · rintro ⟨⟨inside, fresh⟩, others, distinct, unseen⟩
        refine ⟨⟨inside, others⟩, ⟨?_, distinct⟩, fresh, fun other among =>
          mt (List.mem_cons_of_mem first.key) (unseen other among)⟩
        intro again
        obtain ⟨other, among, same⟩ := List.mem_map.1 again
        exact unseen other among (List.mem_cons.2 (.inl same))
      · rintro ⟨⟨inside, others⟩, ⟨apart, distinct⟩, fresh, unseen⟩
        refine ⟨⟨inside, fresh⟩, others, distinct, ?_⟩
        intro other among again
        rcases List.mem_cons.1 again with same | earlier
        · exact apart (List.mem_map.2 ⟨other, among, same⟩)
        · exact unseen other among earlier

/-- **No key is met again exactly if no literal that is reached repeats one.** -/
theorem repeats_eq_nil_iff (property : Property TypeExpr) :
    property.value.repeats = [] ↔
      ∀ literal, property.value.Reaches literal → (literal.map Property.key).Nodup := by
  induction property using Property.declared_induction with
  | step property each =>
      rw [repeats_eq, repeatsAmong_eq_nil_iff]
      constructor
      · rintro ⟨inside, distinct, -⟩ literal reaches
        cases reaches with
        | own expands =>
            rw [← properties_of_expands expands]
            exact distinct
        | inside expands among reaches =>
            rw [← properties_of_expands expands] at among
            exact (each _ among).1 (inside _ among) literal reaches
      · intro distinct
        refine ⟨?_, ?_, fun _ _ => List.not_mem_nil⟩
        · intro inner among
          have expands := expands_properties (List.ne_nil_of_mem among)
          exact (each inner among).2 fun literal reaches =>
            distinct literal (.inside expands among reaches)
        · by_cases filled : property.value.properties = []
          · rw [filled]
            exact List.nodup_nil
          · exact distinct _ (.own (expands_properties filled))

end TypeExpr

end InputDocs

import InputDocs.Proofs.Field.Expansion

/-!
# Proofs.Field.Duplicates -- keys that an object literal repeats

Both policies resolve the same literals in the same order, and they differ only where a key is met
again. So the outcome where repeats are refused is the one where the last property wins, unless
some key is met again; then it is the first such key (`Field.resolve_reject`). The induction goes
along the properties that values declare, with the keys before a property as the names of the
fields before it.

Where the last property wins nothing can fail (`Field.exists_resolve`). What the properties of a
literal become is a list with one field for each key (`Field.LastOfEach`), and one more property
keeps it so: its field takes the place of the one with its key, or the last place
(`Field.LastOfEach.put`).
-/

namespace InputDocs

set_option autoImplicit false

/-- The outcome, unless a key is refused before it is reached. -/
def DuplicateKey.refusing {α : Type} (outcome : Except DuplicateKey α) :
    List String → Except DuplicateKey α
  | [] => outcome
  | key :: _ => .error ⟨key⟩

namespace DuplicateKey

theorem refusing_append {α : Type} (outcome : Except DuplicateKey α) (first second : List String) :
    refusing outcome (first ++ second) = refusing (refusing outcome second) first := by
  cases first <;> rfl

theorem refusing_bind {α β : Type} (outcome : Except DuplicateKey α) (keys : List String)
    (next : α → Except DuplicateKey β) :
    (refusing outcome keys).bind next = refusing (outcome.bind next) keys := by
  cases keys <;> rfl

theorem refusing_map {α β : Type} (outcome : Except DuplicateKey α) (keys : List String)
    (next : α → β) : (refusing outcome keys).map next = refusing (outcome.map next) keys := by
  cases keys <;> rfl

theorem refusing_eq_error_iff {α : Type} {value : α} {keys : List String} {error : DuplicateKey} :
    refusing (.ok value) keys = .error error ↔ keys.head? = some error.key := by
  cases keys with
  | nil => simp [refusing]
  | cons key rest => cases error; simp [refusing]

theorem of_refusing_eq_ok {α : Type} {outcome : Except DuplicateKey α} {keys : List String}
    {value : α} (accepted : refusing outcome keys = .ok value) : outcome = .ok value := by
  cases keys with
  | nil => exact accepted
  | cons key rest => cases accepted

end DuplicateKey

namespace Field

open DuplicateKey (refusing refusing_append refusing_bind refusing_map)

variable [PatternEngine] {policy : DuplicatePolicy}

/-! ## A field, put together from the fields below it -/

/-- The type that an expression gives to the field `name`, by the fields of the literal that it
expands. -/
def typeWith (name : String) (core : Option TypeExpr) (children : List Field) : FieldType Field :=
  match core with
  | none => .plain ""
  | some expr =>
    match expr.expansion? with
    | some (collection, []) => .plain (collection.wrap (objectSignature "\x7b\x7d"))
    | some (collection, _ :: _) => .nested collection (typeName name) children
    | none => .plain (expr.signature.getD "")

/-- The policy matters to the properties of the literal only. -/
theorem typeOf_eq (policy : DuplicatePolicy) (name : String) (expr : TypeExpr) :
    typeOf policy name expr.core =
      (resolveAll policy [] expr.properties).outcome.map (typeWith name expr.core) := by
  unfold TypeExpr.properties
  cases left : expr.core with
  | none => simp [outcome_resolveAll_nil, typeOf, typeWith, Except.map]
  | some core =>
      rw [Option.bind_some, typeOf]
      split
      · rename_i expanded
        simp [outcome_resolveAll_nil, expanded, typeWith, Except.map]
      · rename_i first rest expanded
        rw [expanded]
        congr 1
        funext children
        simp [typeWith, expanded]
      · rename_i expanded
        simp [outcome_resolveAll_nil, expanded, typeWith, Except.map]

theorem outcome_resolve (policy : DuplicatePolicy) (property : Property TypeExpr) :
    (resolve policy property).outcome =
      (resolveAll policy [] property.value.properties).outcome.map fun children =>
        { name := property.key
          doc := (property.comment.map Doc.ofComment).getD .empty
          type := typeWith property.key property.value.core children
          presence := property.value.presence } := by
  rw [resolve, Traced.outcome_bind, outcome_resolveType, typeOf_eq]
  cases (resolveAll policy [] property.value.properties).outcome <;> rfl

omit [PatternEngine] in
theorem children_typeWith {name : String} {doc : Doc} {presence : Presence} {expr : TypeExpr}
    {found : List Field} (empty : expr.properties = [] → found = []) :
    children ⟨name, doc, typeWith name expr.core found, presence⟩ = found := by
  unfold TypeExpr.properties at empty
  cases left : expr.core with
  | none =>
      rw [left] at empty
      exact (empty rfl).symm
  | some core =>
      rw [left, Option.bind_some] at empty
      cases expanded : core.expansion? with
      | none =>
          rw [expanded] at empty
          simp only [children, typeWith, expanded]
          exact (empty rfl).symm
      | some expansion =>
          obtain ⟨collection, literal⟩ := expansion
          rw [expanded] at empty
          cases literal with
          | nil =>
              simp only [children, typeWith, expanded]
              exact (empty rfl).symm
          | cons first rest => simp only [children, typeWith, expanded]

/-- The children of a resolved field are the fields of the literal that its value expands. -/
theorem children_of_resolve {property : Property TypeExpr} {field : Field}
    (done : (resolve policy property).outcome = .ok field) :
    (resolveAll policy [] property.value.properties).outcome = .ok field.children := by
  rw [outcome_resolve] at done
  cases resolved : (resolveAll policy [] property.value.properties).outcome with
  | error error =>
      rw [resolved] at done
      cases done
  | ok found =>
      rw [resolved] at done
      cases done
      rw [children_typeWith]
      intro empty
      rw [empty, outcome_resolveAll_nil] at resolved
      exact (Except.ok.inj resolved).symm

/-! ## Nothing fails where the last property wins -/

theorem exists_resolveAll {properties : List (Property TypeExpr)}
    (each : ∀ property ∈ properties, ∃ field, (resolve .lastWins property).outcome = .ok field)
    (fields : List Field) :
    ∃ children, (resolveAll .lastWins fields properties).outcome = .ok children := by
  induction properties generalizing fields with
  | nil => exact ⟨fields, outcome_resolveAll_nil fields⟩
  | cons first rest ih =>
      obtain ⟨⟨field, resolved⟩, others⟩ := List.forall_mem_cons.1 each
      obtain ⟨children, later⟩ := ih others (put field fields)
      refine ⟨children, ?_⟩
      rw [outcome_resolveAll_cons, resolved]
      exact later

theorem exists_resolve (property : Property TypeExpr) :
    ∃ field, (resolve .lastWins property).outcome = .ok field := by
  induction property using Property.declared_induction with
  | step property each =>
      obtain ⟨children, resolved⟩ := exists_resolveAll each []
      rw [outcome_resolve, resolved]
      exact ⟨_, rfl⟩

/-! ## Refusing repeated keys -/

theorem resolveAll_reject {properties : List (Property TypeExpr)} {fields : List Field}
    {seen : List String}
    (each : ∀ property ∈ properties, (resolve .reject property).outcome =
      refusing (resolve .lastWins property).outcome property.value.repeats)
    (named : ∀ key, key ∈ fields.map Field.name ↔ key ∈ seen) :
    (resolveAll .reject fields properties).outcome =
      refusing (resolveAll .lastWins fields properties).outcome
        (TypeExpr.repeatsAmong seen properties) := by
  induction properties generalizing fields seen with
  | nil =>
      rw [outcome_resolveAll_nil, outcome_resolveAll_nil, TypeExpr.repeatsAmong_nil]
      rfl
  | cons first rest ih =>
      obtain ⟨own, others⟩ := List.forall_mem_cons.1 each
      obtain ⟨field, resolved⟩ := exists_resolve first
      have keyed : field.name = first.key := (resolve_ok_iff.1 resolved).2.1
      rw [outcome_resolveAll_cons, outcome_resolveAll_cons, own, refusing_bind, resolved,
        TypeExpr.repeatsAmong_cons, List.append_assoc, refusing_append]
      congr 1
      rw [Except.bind, Except.bind]
      by_cases again : first.key ∈ seen
      · rw [if_pos ⟨rfl, (named _).2 again⟩, if_pos again]
        rfl
      · rw [if_neg (fun both => again ((named _).1 both.2)), if_neg again, if_neg (by simp),
          List.nil_append]
        refine ih others fun key => ?_
        rw [names_put, mem_addName, named, keyed, List.mem_cons, or_comm]

/-- **A repeated key is refused where it is met first**, and nothing else is different. -/
theorem resolve_reject (property : Property TypeExpr) :
    (resolve .reject property).outcome =
      refusing (resolve .lastWins property).outcome property.value.repeats := by
  induction property using Property.declared_induction with
  | step property each =>
      have below : (resolveAll .reject [] property.value.properties).outcome =
          refusing (resolveAll .lastWins [] property.value.properties).outcome
            (TypeExpr.repeatsAmong [] property.value.properties) :=
        resolveAll_reject each fun _ => Iff.rfl
      rw [outcome_resolve, outcome_resolve, TypeExpr.repeats_eq, below, refusing_map]

/-! ## The fields of a literal -/

/-- The property is the last one with its key. -/
def IsLast (literal : List (Property TypeExpr)) (property : Property TypeExpr) : Prop :=
  ∃ before after, literal = before ++ property :: after ∧
    ∀ later ∈ after, later.key ≠ property.key

/-- The fields are those of the last properties with each key, in the order in which the keys
first occur. -/
structure LastOfEach (literal : List (Property TypeExpr)) (fields : List Field) : Prop where
  names : fields.map Field.name = (literal.map Property.key).eraseDups
  latest : ∀ field ∈ fields, ∃ property, IsLast literal property ∧ property.key = field.name ∧
    (resolve .lastWins property).outcome = .ok field

omit [PatternEngine] in
theorem eraseDups_append_single (names : List String) (name : String) :
    (names ++ [name]).eraseDups = addName names.eraseDups name := by
  rw [List.eraseDups_append]
  unfold addName
  by_cases known : name ∈ names
  · simp [known, List.removeAll]
  · simp [known, List.removeAll, List.eraseDups_cons]

theorem LastOfEach.nil : LastOfEach [] [] := ⟨rfl, nofun⟩

/-- One more property: its field takes the place of the one with its key, or the last place. -/
theorem LastOfEach.put {literal : List (Property TypeExpr)} {fields : List Field}
    {property : Property TypeExpr} {field : Field} (settled : LastOfEach literal fields)
    (resolved : (resolve .lastWins property).outcome = .ok field) :
    LastOfEach (literal ++ [property]) (put field fields) := by
  have named : field.name = property.key := (resolve_ok_iff.1 resolved).2.1
  constructor
  · rw [names_put, settled.names, named, List.map_append, List.map_singleton,
      eraseDups_append_single]
  · intro one member
    rcases mem_put member with rfl | ⟨old, other⟩
    · exact ⟨property, ⟨literal, [], rfl, nofun⟩, named.symm, resolved⟩
    · obtain ⟨source, ⟨before, after, rfl, last⟩, keyed, fromSource⟩ := settled.latest one old
      refine ⟨source, ⟨before, after ++ [property], by simp, ?_⟩, keyed, fromSource⟩
      intro later among
      rcases List.mem_append.1 among with inside | new
      · exact last later inside
      · obtain rfl := List.mem_singleton.1 new
        rw [keyed, ← named]
        exact Ne.symm other

theorem LastOfEach.resolveAll {before rest : List (Property TypeExpr)} {fields children : List Field}
    (settled : LastOfEach before fields)
    (done : (resolveAll .lastWins fields rest).outcome = .ok children) :
    LastOfEach (before ++ rest) children := by
  induction rest generalizing before fields with
  | nil =>
      rw [outcome_resolveAll_nil] at done
      cases done
      rwa [List.append_nil]
  | cons first others ih =>
      obtain ⟨field, resolved, later⟩ := resolveAll_cons done
      have next := ih (settled.put resolved) later
      rwa [List.append_assoc, List.singleton_append] at next

/-! ## Both policies -/

/-- **Repeated keys.** Where the last property wins, resolution never fails. The children are then
those of the literal that is expanded, resolved from the last property with each key, in the order
of first occurrence; without such a literal there are none. Where repeats are refused, resolution
fails exactly if some literal that is reached repeats a key, it names the key that is met again
first, and otherwise the result is the same. -/
theorem repeats_settled (property : Property TypeExpr) :
    (∃ field, (resolve .lastWins property).outcome = .ok field ∧
      (∀ literal, property.value.Expands literal → LastOfEach literal field.children) ∧
      ((∀ literal, ¬ property.value.Expands literal) → field.children = [])) ∧
    ((∃ error, (resolve .reject property).outcome = .error error) ↔
      ∃ literal, property.value.Reaches literal ∧ ¬ (literal.map Property.key).Nodup) ∧
    (∀ key, (resolve .reject property).outcome = .error ⟨key⟩ ↔
      property.value.repeats.head? = some key) ∧
    ∀ field, (resolve .reject property).outcome = .ok field →
      (resolve .lastWins property).outcome = .ok field := by
  obtain ⟨field, resolved⟩ := exists_resolve property
  have whole := children_of_resolve resolved
  have refuses (error : DuplicateKey) : (resolve .reject property).outcome = .error error ↔
      property.value.repeats.head? = some error.key := by
    rw [resolve_reject, resolved, DuplicateKey.refusing_eq_error_iff]
  refine ⟨⟨field, resolved, ?_, ?_⟩, ?_, fun key => refuses ⟨key⟩, ?_⟩
  · intro literal expands
    rw [TypeExpr.properties_of_expands expands] at whole
    exact LastOfEach.nil.resolveAll whole
  · intro none
    have empty : property.value.properties = [] :=
      Decidable.byContradiction fun filled => none _ (TypeExpr.expands_properties filled)
    rw [empty, outcome_resolveAll_nil] at whole
    exact (Except.ok.inj whole).symm
  · have fails : (∃ error, (resolve .reject property).outcome = .error error) ↔
        property.value.repeats ≠ [] := by
      constructor
      · rintro ⟨error, failed⟩ clear
        rw [refuses, clear] at failed
        cases failed
      · intro met
        obtain ⟨key, rest, starts⟩ := List.exists_cons_of_ne_nil met
        exact ⟨⟨key⟩, (refuses ⟨key⟩).2 (by rw [starts, List.head?_cons])⟩
    rw [fails, ne_eq, TypeExpr.repeats_eq_nil_iff]
    simp only [Classical.not_forall, exists_prop]
  · intro accepted result
    rw [resolve_reject] at result
    exact DuplicateKey.of_refusing_eq_ok result

/-- An object literal that repeats a key, the second time with a value that repeats another. -/
def twiceRepeated : Property TypeExpr :=
  ⟨none, "f", .object [⟨none, "a", .word "string"⟩,
    ⟨none, "a", .object [⟨none, "b", .word "x"⟩, ⟨none, "b", .word "y"⟩]⟩]⟩

omit [PatternEngine] in
theorem twiceRepeated_settled :
    let _ : PatternEngine := .lenient
    (∃ field, (resolve .lastWins twiceRepeated).outcome = .ok field ∧
      field.children.map Field.name = ["a"]) ∧
    (resolve .reject twiceRepeated).outcome = .error ⟨"b"⟩ := by
  intro _
  have expands : twiceRepeated.value.Expands [⟨none, "a", .word "string"⟩,
      ⟨none, "a", .object [⟨none, "b", .word "x"⟩, ⟨none, "b", .word "y"⟩]⟩] :=
    .alone (.bare _)
  have first : twiceRepeated.value.repeats.head? = some "b" := by
    with_unfolding_all rfl
  obtain ⟨⟨field, resolved, children, -⟩, -, names, -⟩ := repeats_settled twiceRepeated
  exact ⟨⟨field, resolved, (children _ expands).names⟩, (names "b").2 first⟩

end Field

end InputDocs

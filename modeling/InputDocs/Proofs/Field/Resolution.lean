import InputDocs.Field.Resolve
import InputDocs.Proofs.Field.Walk

/-!
# Proofs.Field.Resolution -- what a resolved field is made of

Resolution peels off calls of `optional` one by one and reports events on the way. It has an
equation for each of the three shapes an expression can have there (`Field.resolveType_bare`,
`Field.resolveType_optional`, `Field.resolveType_plain`), and its outcome has a closed form: the
presence depends on the calls that are peeled off (`TypeExpr.presence`), the type on the expression
that is left (`TypeExpr.core`, `Field.typeOf`), and on nothing else (`Field.outcome_resolveType`).
With it a resolved field is opened in one step (`Field.resolve_ok_iff`), and every field of the tree
below is seen to be resolved from a property itself (`Field.exists_source`).

So what every field of a resolved tree satisfies (`Field.WellFormed`) is shown for a resolved
property alone. Only the names of its children need an induction over the properties of an object
literal: they are the keys in the order of their first occurrence (`Field.names_of_resolveAll`).
-/

namespace InputDocs

set_option autoImplicit false

namespace TypeExpr

/-! ## Peeling -/

/-- What is left when the calls of `optional` are peeled off; nothing if the innermost one has no
argument. -/
def core (expr : TypeExpr) : Option TypeExpr :=
  match _peeled : expr.optional? with
  | some [] => none
  | some (inner :: _) => inner.core
  | none => some expr
termination_by sizeOf expr
decreasing_by exact sizeOf_of_optional? _peeled

/-- The text of a default, if it can be shown. -/
def defaultText : TypeExpr → Option String
  | object [] => some "\x7b\x7d"
  | other => other.signature

/-- The default of a call of `optional`, by its arguments after the first and by the default that
the first one has itself. -/
def defaultAfter (inner : Option String) : List TypeExpr → Option String
  | [] => inner
  | default :: _ => default.defaultText

/-- The presence that the calls of `optional` give: the default is that of the outermost call
that has a second argument. -/
def presence (expr : TypeExpr) : Presence :=
  match _peeled : expr.optional? with
  | some [] => .optional none
  | some (inner :: others) => .optional (defaultAfter inner.presence.default? others)
  | none => .required
termination_by sizeOf expr
decreasing_by exact sizeOf_of_optional? _peeled

section Peeling

variable {expr inner : TypeExpr} {others : List TypeExpr}

theorem core_of_plain (plain : expr.optional? = none) : expr.core = some expr := by
  rw [core]
  split <;> simp_all

theorem core_of_bare (bare : expr.optional? = some []) : expr.core = none := by
  rw [core]
  split <;> simp_all

theorem core_of_optional (peeled : expr.optional? = some (inner :: others)) :
    expr.core = inner.core := by
  rw [core]
  split <;> simp_all

theorem presence_of_plain (plain : expr.optional? = none) : expr.presence = .required := by
  rw [presence]
  split <;> simp_all

theorem presence_of_bare (bare : expr.optional? = some []) : expr.presence = .optional none := by
  rw [presence]
  split <;> simp_all

theorem presence_of_optional (peeled : expr.optional? = some (inner :: others)) :
    expr.presence = .optional (defaultAfter inner.presence.default? others) := by
  rw [presence]
  split <;> simp_all

end Peeling

theorem optional?_call (arguments : List TypeExpr) :
    (call "optional" arguments).optional? = some arguments := by
  simp [optional?]

theorem eq_of_optional? {expr : TypeExpr} {arguments : List TypeExpr}
    (peeled : expr.optional? = some arguments) : expr = call "optional" arguments := by
  unfold optional? at peeled
  split at peeled
  · split at peeled
    · rename_i named
      rw [named, Option.some_inj.1 peeled]
    · cases peeled
  · cases peeled

/-- Induction along the calls of `optional` that are peeled off. -/
theorem peeling_induction {motive : TypeExpr → Prop}
    (plain : ∀ expr, expr.optional? = none → motive expr)
    (bare : motive (call "optional" []))
    (optional : ∀ inner others, motive inner → motive (call "optional" (inner :: others)))
    (expr : TypeExpr) : motive expr := by
  cases peeled : expr.optional? with
  | none => exact plain expr peeled
  | some arguments =>
      cases arguments with
      | nil =>
          rw [eq_of_optional? peeled]
          exact bare
      | cons inner others =>
          rw [eq_of_optional? peeled]
          exact optional inner others (peeling_induction plain bare optional inner)
termination_by sizeOf expr
decreasing_by exact sizeOf_of_optional? peeled

/-- The properties that an expression declares: those of the object literal that is expanded. -/
def properties (expr : TypeExpr) : List (Property TypeExpr) :=
  ((expr.core.bind expansion?).map Prod.snd).getD []

theorem properties_plain {expr : TypeExpr} (plain : expr.optional? = none) :
    expr.properties = (expr.expansion?.map Prod.snd).getD [] := by
  rw [properties, core_of_plain plain, Option.bind_some]

theorem properties_optional (inner : TypeExpr) (others : List TypeExpr) :
    (call "optional" (inner :: others)).properties = inner.properties := by
  rw [properties, core_of_optional (optional?_call _), properties]

end TypeExpr

/-- A property declares itself and what the properties of its value declare. -/
inductive Property.Declares : Property TypeExpr → Property TypeExpr → Prop
  | self {property : Property TypeExpr} : Property.Declares property property
  | inside {outer next inner : Property TypeExpr} (among : next ∈ outer.value.properties)
      (declares : Property.Declares next inner) : Property.Declares outer inner

namespace Field

open TypeExpr (optional? expansion?)

/-! ## Keys -/

/-- The fields with one more, in the place of the one with its name if there is one. -/
def put (field : Field) (fields : List Field) : List Field :=
  if field.name ∈ fields.map Field.name then replace field fields else fields ++ [field]

/-- The names with one more, unless it is among them. -/
def addName (names : List String) (name : String) : List String :=
  if name ∈ names then names else names ++ [name]

/-- Replacing a field changes no name. -/
theorem names_replace (field : Field) (fields : List Field) :
    (replace field fields).map Field.name = fields.map Field.name := by
  rw [replace, List.map_map]
  refine List.map_congr_left ?_
  intro old _
  simp only [Function.comp_apply]
  split
  · rename_i same
    exact same.symm
  · rfl

theorem names_put (field : Field) (fields : List Field) :
    (put field fields).map Field.name = addName (fields.map Field.name) field.name := by
  unfold put addName
  split
  · exact names_replace field fields
  · rw [List.map_append, List.map_singleton]

theorem mem_put {field new : Field} {fields : List Field} (member : new ∈ put field fields) :
    new = field ∨ new ∈ fields ∧ new.name ≠ field.name := by
  unfold put at member
  split at member
  · obtain ⟨old, among, rfl⟩ := List.mem_map.1 member
    split
    · exact .inl rfl
    · rename_i other
      exact .inr ⟨among, other⟩
  · rename_i fresh
    rcases List.mem_append.1 member with old | last
    · exact .inr ⟨old, fun same => fresh (same ▸ List.mem_map_of_mem old)⟩
    · exact .inl (List.mem_singleton.1 last)

theorem nodup_addName {names : List String} (distinct : names.Nodup) (name : String) :
    (addName names name).Nodup := by
  unfold addName
  split
  · exact distinct
  · rename_i fresh
    refine List.nodup_append.2 ⟨distinct, by simp, ?_⟩
    rintro old member _ last rfl
    exact fresh (List.mem_singleton.1 last ▸ member)

theorem nodup_foldl_addName {keys names : List String} (distinct : names.Nodup) :
    (keys.foldl addName names).Nodup := by
  induction keys generalizing names with
  | nil => exact distinct
  | cons key rest ih => exact ih (nodup_addName distinct key)

theorem mem_addName {names : List String} {name key : String} :
    name ∈ addName names key ↔ name ∈ names ∨ name = key := by
  unfold addName
  split
  · rename_i known
    constructor
    · exact .inl
    · rintro (member | rfl)
      · exact member
      · exact known
  · simp

theorem mem_foldl_addName {keys names : List String} {name : String} :
    name ∈ keys.foldl addName names ↔ name ∈ names ∨ name ∈ keys := by
  induction keys generalizing names with
  | nil => simp
  | cons key rest ih => rw [List.foldl_cons, ih, mem_addName, List.mem_cons, or_assoc]

variable [PatternEngine]

/-! ## Equations -/

section Equations

variable (policy) (name : String)

theorem resolveType_bare :
    resolveType policy name (.call "optional" []) = (do
      Traced.emit (.optionalWithoutType name)
      return (.optional none, .plain "")) := by
  have peeled := TypeExpr.optional?_call []
  rw [resolveType]
  split <;> simp_all

theorem resolveType_optional (inner : TypeExpr) (others : List TypeExpr) :
    resolveType policy name (.call "optional" (inner :: others)) = (do
      let (presence, type) ← resolveType policy name inner
      let default ← match others with
        | [] => pure presence.default?
        | default :: _ => defaultText default
      if 1 < others.length then Traced.emit (.extraArguments name (others.length + 1))
      return (.optional default, type)) := by
  have peeled := TypeExpr.optional?_call (inner :: others)
  rw [resolveType]
  split
  · simp_all
  · rename_i same
    obtain ⟨rfl, rfl⟩ : _ ∧ _ := by simpa [peeled] using same
    rfl
  · simp_all

theorem resolveType_plain {expr : TypeExpr} (plain : expr.optional? = none) :
    resolveType policy name expr =
      match expr.expansion? with
      | some (collection, []) =>
        return (.required, .plain (collection.wrap (objectSignature "\x7b\x7d")))
      | some (collection, first :: rest) => do
        let children ← resolveAll policy [] (first :: rest)
        return (.required, .nested collection (typeName name) children)
      | none => return (.required, .plain (expr.signature.getD "")) := by
  rw [resolveType]
  split
  · simp_all
  · simp_all
  · split <;> rename_i expanded <;> rw [expanded]

end Equations

/-! ## The outcome of a resolution -/

/-- The type that an expression gives to the field `name` when no `optional` is around it. -/
def typeOf (policy : DuplicatePolicy) (name : String) (core : Option TypeExpr) :
    Except DuplicateKey (FieldType Field) :=
  match core with
  | none => .ok (.plain "")
  | some expr =>
    match expr.expansion? with
    | some (collection, []) => .ok (.plain (collection.wrap (objectSignature "\x7b\x7d")))
    | some (collection, first :: rest) =>
      (resolveAll policy [] (first :: rest)).outcome.map (.nested collection (typeName name))
    | none => .ok (.plain (expr.signature.getD ""))

omit [PatternEngine] in
theorem outcome_defaultText (expr : TypeExpr) :
    (defaultText expr).outcome = .ok expr.defaultText := by
  unfold defaultText
  split
  · rfl
  · rename_i properties filled
    cases properties with
    | nil => exact absurd rfl filled
    | cons first rest => simp [TypeExpr.defaultText]; rfl
  · rename_i noEmpty noLiteral
    cases expr with
    | object properties => exact absurd rfl (noLiteral properties)
    | _ => rfl

/-- **The outcome in closed form.** -/
theorem outcome_resolveType (policy : DuplicatePolicy) (name : String) (expr : TypeExpr) :
    (resolveType policy name expr).outcome =
      (typeOf policy name expr.core).map (expr.presence, ·) := by
  induction expr using TypeExpr.peeling_induction with
  | plain expr plain =>
      rw [TypeExpr.core_of_plain plain, TypeExpr.presence_of_plain plain,
        resolveType_plain policy name plain, typeOf]
      cases expr.expansion? with
      | none => rfl
      | some expansion =>
          obtain ⟨collection, literal⟩ := expansion
          cases literal with
          | nil => rfl
          | cons first rest =>
              simp only [Traced.outcome_bind, Traced.outcome_pure]
              cases (resolveAll policy [] (first :: rest)).outcome <;> rfl
  | bare =>
      have peeled := TypeExpr.optional?_call []
      rw [TypeExpr.core_of_bare peeled, TypeExpr.presence_of_bare peeled, resolveType_bare]
      rfl
  | optional inner others ih =>
      have peeled := TypeExpr.optional?_call (inner :: others)
      rw [TypeExpr.core_of_optional peeled, TypeExpr.presence_of_optional peeled,
        resolveType_optional, Traced.outcome_bind, ih]
      cases typeOf policy name inner.core with
      | error error => rfl
      | ok type =>
          cases others with
          | nil => rfl
          | cons default more =>
              change (defaultText default >>= _).outcome = _
              rw [Traced.outcome_bind, outcome_defaultText]
              change Traced.outcome (if _ then _ else _) = _
              split <;> rfl

variable {policy : DuplicatePolicy} {name : String}

/-- A resolved field, part by part. -/
theorem resolve_ok_iff {property : Property TypeExpr} {field : Field} :
    (resolve policy property).outcome = .ok field ↔
      typeOf policy property.key property.value.core = .ok field.type ∧
        field.name = property.key ∧
        field.doc = (property.comment.map Doc.ofComment).getD .empty ∧
        field.presence = property.value.presence := by
  rw [resolve, Traced.outcome_bind, outcome_resolveType]
  cases typeOf policy property.key property.value.core with
  | error error =>
      constructor
      · intro done
        cases done
      · rintro ⟨done, _⟩
        cases done
  | ok type =>
      constructor
      · intro done
        cases done
        exact ⟨rfl, rfl, rfl, rfl⟩
      · obtain ⟨name, doc, fieldType, presence⟩ := field
        rintro ⟨done, rfl, rfl, rfl⟩
        cases done
        rfl

/-- A type is plain, or the type of an object literal that has properties. -/
theorem typeOf_cases {expr : TypeExpr} {type : FieldType Field}
    (done : typeOf policy name expr.core = .ok type) :
    (∃ signature, type = .plain signature) ∨
      ∃ collection children, type = .nested collection (typeName name) children ∧
        expr.properties ≠ [] ∧ (resolveAll policy [] expr.properties).outcome = .ok children := by
  unfold TypeExpr.properties
  cases left : expr.core with
  | none =>
      rw [left] at done
      cases done
      exact .inl ⟨_, rfl⟩
  | some core =>
      rw [left, typeOf] at done
      rw [Option.bind_some]
      split at done
      · cases done
        exact .inl ⟨_, rfl⟩
      · rename_i collection first rest expanded
        rw [expanded]
        cases resolved : (resolveAll policy [] (first :: rest)).outcome with
        | error error =>
            rw [resolved] at done
            cases done
        | ok children =>
            rw [resolved] at done
            cases done
            exact .inr ⟨collection, children, rfl, List.cons_ne_nil _ _, resolved⟩
      · cases done
        exact .inl ⟨_, rfl⟩

/-! ## The properties of an object literal -/

theorem outcome_resolveAll_nil (fields : List Field) :
    (resolveAll policy fields []).outcome = .ok fields := by
  rw [resolveAll]
  rfl

/-- One property: its field is resolved, then its key is looked at, and then the field is put among
those before it. -/
theorem outcome_resolveAll_cons (policy : DuplicatePolicy) (fields : List Field)
    (property : Property TypeExpr) (rest : List (Property TypeExpr)) :
    (resolveAll policy fields (property :: rest)).outcome =
      (resolve policy property).outcome.bind fun field =>
        if policy = .reject ∧ property.key ∈ fields.map Field.name then .error ⟨property.key⟩
        else (resolveAll policy (put field fields) rest).outcome := by
  rw [resolveAll, Traced.outcome_bind]
  cases resolved : (resolve policy property).outcome with
  | error error => rfl
  | ok field =>
      have named : field.name = property.key := (resolve_ok_iff.1 resolved).2.1
      have known : (fields.any fun old => decide (old.name = property.key)) = true ↔
          property.key ∈ fields.map Field.name := by
        simp
      change Traced.outcome (if _ then _ else _) = if _ then _ else _
      unfold put
      rw [named]
      split
      · rename_i repeated
        rw [if_pos (known.1 repeated)]
        cases policy with
        | lastWins => rfl
        | reject =>
            rw [if_pos ⟨rfl, known.1 repeated⟩]
            rfl
      · rename_i fresh
        rw [if_neg (mt known.2 fresh), if_neg (fun again => mt known.2 fresh again.2)]

theorem resolveAll_cons {fields children : List Field} {property : Property TypeExpr}
    {rest : List (Property TypeExpr)}
    (done : (resolveAll policy fields (property :: rest)).outcome = .ok children) :
    ∃ field, (resolve policy property).outcome = .ok field ∧
      (resolveAll policy (put field fields) rest).outcome = .ok children := by
  rw [outcome_resolveAll_cons] at done
  cases resolved : (resolve policy property).outcome with
  | error error =>
      rw [resolved] at done
      cases done
  | ok field =>
      rw [resolved, Except.bind] at done
      split at done
      · cases done
      · exact ⟨field, rfl, done⟩

/-- The children are resolved from the properties. -/
theorem mem_resolveAll {properties : List (Property TypeExpr)} {fields children : List Field}
    (done : (resolveAll policy fields properties).outcome = .ok children) :
    ∀ child ∈ children, child ∈ fields ∨
      ∃ property ∈ properties, (resolve policy property).outcome = .ok child := by
  induction properties generalizing fields with
  | nil =>
      rw [resolveAll] at done
      cases done
      exact fun child member => .inl member
  | cons property rest ih =>
      obtain ⟨field, resolved, later⟩ := resolveAll_cons done
      intro child member
      rcases ih later child member with before | ⟨source, among, from_source⟩
      · rcases mem_put before with rfl | ⟨old, -⟩
        · exact .inr ⟨property, List.mem_cons_self, resolved⟩
        · exact .inl old
      · exact .inr ⟨source, List.mem_cons_of_mem _ among, from_source⟩

/-- The names of the children are the keys in the order of their first occurrence. -/
theorem names_of_resolveAll {properties : List (Property TypeExpr)} {fields children : List Field}
    (done : (resolveAll policy fields properties).outcome = .ok children) :
    children.map Field.name =
      (properties.map Property.key).foldl addName (fields.map Field.name) := by
  induction properties generalizing fields with
  | nil =>
      rw [resolveAll] at done
      cases done
      rfl
  | cons property rest ih =>
      obtain ⟨field, resolved, later⟩ := resolveAll_cons done
      rw [ih later, names_put, (resolve_ok_iff.1 resolved).2.1, List.map_cons, List.foldl_cons]

/-- An object literal with properties has children. -/
theorem ne_nil_of_resolveAll {properties : List (Property TypeExpr)} {children : List Field}
    (filled : properties ≠ []) (done : (resolveAll policy [] properties).outcome = .ok children) :
    children ≠ [] := by
  obtain ⟨first, rest, rfl⟩ := List.exists_cons_of_ne_nil filled
  have named : first.key ∈ children.map Field.name := by
    rw [names_of_resolveAll done, mem_foldl_addName]
    exact .inr (by simp)
  rintro rfl
  cases named

/-! ## Whole trees -/

/-- The children of a resolved field are resolved from the properties it declares. -/
theorem exists_property_of_child {property : Property TypeExpr} {field child : Field}
    (done : (resolve policy property).outcome = .ok field) (below : child ∈ field.children) :
    ∃ inner ∈ property.value.properties, (resolve policy inner).outcome = .ok child := by
  obtain ⟨typed, _⟩ := resolve_ok_iff.1 done
  unfold children at below
  rcases typeOf_cases typed with ⟨signature, plain⟩ | ⟨collection, children, nested, _, resolved⟩
  · rw [plain] at below
    cases below
  · rw [nested] at below
    rcases mem_resolveAll resolved child below with old | found
    · cases old
    · exact found

/-- A field resolved from a declaration as a whole is resolved like a property without comment. -/
theorem resolve_of_resolveGroup {root : TypeExpr} {group : Group}
    (done : (resolveGroup policy root name).outcome = .ok (some group)) :
    (resolve policy ⟨none, name, root⟩).outcome = .ok group.field := by
  unfold resolveGroup at done
  split at done
  · split at done
    · rw [Traced.outcome_bind] at done
      rw [resolve, Traced.outcome_bind]
      cases resolved : (resolveType policy name (.call _ _)).outcome with
      | error error =>
          rw [resolved] at done
          cases done
      | ok found =>
          rw [resolved] at done
          cases done
          rfl
    · cases done
  · cases done

/-- What a documented field satisfies:

* it has a type name exactly if it has children;
* the type name is made from its own name, and its signature is the object type of that name, by
  itself or in a collection;
* its children have different names;
* only a field that may be left out has a default. -/
structure WellFormed (field : Field) : Prop where
  named_iff : field.typeName?.isSome = true ↔ field.children ≠ []
  signature : ∀ type ∈ field.typeName?, type = typeName field.name ∧
    field.signature ∈ ["object(" ++ type ++ ")", "map(object(" ++ type ++ "))",
      "list(object(" ++ type ++ "))"]
  distinct : (field.children.map Field.name).Nodup
  default : field.presence.default?.isSome = true → field.presence.isOptional = true

omit [PatternEngine] in
theorem mem_wrappings (collection : Collection) (type : String) :
    collection.wrap (objectSignature type) ∈
      ["object(" ++ type ++ ")", "map(object(" ++ type ++ "))",
        "list(object(" ++ type ++ "))"] := by
  cases collection with
  | none => simp [Collection.wrap, objectSignature]
  | map =>
      have same : Collection.map.wrap (objectSignature type) = "map(object(" ++ type ++ "))" := by
        apply String.toList_injective
        simp [Collection.wrap, Collection.text, objectSignature]
      simp [same]
  | list =>
      have same : Collection.list.wrap (objectSignature type) = "list(object(" ++ type ++ "))" := by
        apply String.toList_injective
        simp [Collection.wrap, Collection.text, objectSignature]
      simp [same]

omit [PatternEngine] in
theorem isOptional_of_default {presence : Presence} (shown : presence.default?.isSome = true) :
    presence.isOptional = true := by
  cases presence with
  | required => cases shown
  | optional default => rfl

/-- A field is well formed as it is resolved. -/
theorem wellFormed_of_resolve {property : Property TypeExpr} {field : Field}
    (done : (resolve policy property).outcome = .ok field) : field.WellFormed := by
  obtain ⟨typed, named, _⟩ := resolve_ok_iff.1 done
  obtain ⟨name, doc, type, presence⟩ := field
  obtain rfl : name = property.key := named
  rcases typeOf_cases typed with ⟨signature, plain⟩ | ⟨collection, children, nested, filled, resolved⟩
  · obtain rfl : type = .plain signature := plain
    exact {
      named_iff := by simp [typeName?, children]
      signature := by simp [typeName?]
      distinct := List.nodup_nil
      default := isOptional_of_default }
  · obtain rfl : type = .nested collection (typeName property.key) children := nested
    refine ⟨?_, ?_, ?_, isOptional_of_default⟩
    · exact iff_of_true rfl (ne_nil_of_resolveAll filled resolved)
    · intro type same
      obtain rfl := Option.some_inj.1 same
      exact ⟨rfl, mem_wrappings collection _⟩
    · change (children.map Field.name).Nodup
      rw [names_of_resolveAll resolved]
      exact nodup_foldl_addName List.nodup_nil

/-- Every field of a resolved tree is resolved from a property that is declared with it. -/
theorem exists_source {property : Property TypeExpr} {field inner : Field}
    (done : (resolve policy property).outcome = .ok field) (within : Within inner field) :
    ∃ source, property.Declares source ∧ (resolve policy source).outcome = .ok inner := by
  induction within generalizing property with
  | self => exact ⟨property, .self, done⟩
  | child member _ ih =>
      obtain ⟨next, among, resolved⟩ := exists_property_of_child done member
      obtain ⟨source, declares, from_source⟩ := ih resolved
      exact ⟨source, .inside among declares, from_source⟩

end Field

end InputDocs

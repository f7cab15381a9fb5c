import InputDocs.Proofs.Manifest.Names
import Mathlib.Data.List.Perm.Basic

/-!
# Proofs.Manifest.References -- where reference links come from and which of them stays

A reference link is written in a description or in the documentation of a field, however deep
(`Variable.Defines`). The tables of a variable tell of every field: a field with children has a
table of its own, so all fields but the outermost stand in a row, and that one has no documentation
(`Contribution.mem_references_iff`). So no link is lost and none is invented, and of the links with
one name a link of the last variable that has any stays (`Manifest.references_exact`).

Which link of that variable stays depends on the order in which its tables are written. A table
tells of its own field and then of all its rows, and only then come the tables of those rows that
have one. A field with a table is told of twice, and the second time counts: what comes last is as
if every field were told of once, in each object first the fields without a type of their own and
then the others, each with everything below it (`Field.tabled`, `Field.lastEntry_nestedFields`).
Where the fields without a type of their own come first anyway this is the order in which the
fields are declared (`Field.tabled_eq_declared`), and elsewhere it need not be
(`Manifest.references_of_one`, `Manifest.declaredLast_replaced`).
-/

namespace InputDocs

set_option autoImplicit false

/-! ## Documentation -/

/-- The target that a directive gives to the name as a reference link. -/
def Directive.target? (name : String) (directive : Directive) : Option String :=
  match directive.meaning with
  | .link .reference id target => if id = name then some target else none
  | _ => none

theorem Directive.target?_eq (name : String) (directive : Directive) :
    directive.target? name = directive.reference?.bind (valueFor name) := by
  unfold Directive.target? Directive.reference?
  cases directive.meaning with
  | link style id target => cases style <;> rfl
  | _ => rfl

namespace Doc

/-- A directive of the documentation is a valid reference link with this name and target. -/
def Defines (doc : Doc) (name target : String) : Prop :=
  ∃ directive ∈ doc.directives, directive.meaning = .link .reference name target

theorem mem_references_iff {doc : Doc} {name target : String} :
    (name, target) ∈ doc.references ↔ doc.Defines name target := by
  rw [references, List.mem_filterMap, Defines]
  refine exists_congr fun directive => and_congr_right fun _ => ?_
  unfold Directive.reference?
  split
  · rename_i id found meaning
    rw [meaning]
    simp
  · rename_i other
    refine iff_of_false (by simp) fun same => other _ _ same

/-- The target that the last link of the documentation with the name gives it. -/
def target? (name : String) (doc : Doc) : Option String :=
  doc.directives.findSomeRev? (Directive.target? name)

theorem lastEntry_references (name : String) (doc : Doc) :
    lastEntry name doc.references = doc.target? name := by
  rw [lastEntry, references, findSomeRev?_filterMap, target?]
  exact findSomeRev?_congr fun directive _ => (directive.target?_eq name).symm

theorem not_defines_empty (name target : String) : ¬ empty.Defines name target := by
  rintro ⟨directive, member, _⟩
  cases member

end Doc

/-! ## One variable -/

/-- The documentation that a variable has: its description, and the comments on the fields of its
group at any depth. -/
inductive Variable.HasDoc [PatternEngine] (options : Options) (input : Variable) : Doc → Prop
  | description : Variable.HasDoc options input (.ofDescription input.description)
  | field {group : Group} {field : Field}
      (documented : (input.group options).outcome = .ok (some group))
      (within : Field.Within field group.field) : Variable.HasDoc options input field.doc

/-- The variable has documentation with this reference link. -/
def Variable.Defines [PatternEngine] (options : Options) (input : Variable)
    (name target : String) : Prop :=
  ∃ doc, input.HasDoc options doc ∧ doc.Defines name target

namespace Contribution

variable [PatternEngine] {options : Options} {input : Variable}

theorem doc_of_group {group : Group}
    (documented : (input.group options).outcome = .ok (some group)) :
    group.field.doc = .empty := by
  obtain ⟨root, _, resolved⟩ := exists_root_of_group (group_eq_some_iff.2 documented)
  exact (Field.resolve_ok_iff.1 resolved).2.2.1

omit [PatternEngine] in
theorem typeName?_of_child {field child : Field} (below : child ∈ field.children) :
    field.typeName?.isSome = true := by
  obtain ⟨name, doc, type, presence⟩ := field
  cases type with
  | plain signature => cases below
  | nested collection typeName children => rfl

/-- **The reference links that a variable adds are those that it defines.** -/
theorem mem_references_iff {name target : String} :
    (name, target) ∈ (ofVariable options input).references ↔
      input.Defines options name target := by
  change (name, target) ∈ (Doc.ofDescription input.description).references ++
    (visited options input).flatMap Field.tableReferences ↔ _
  constructor
  · intro member
    rcases List.mem_append.1 member with own | nested
    · exact ⟨_, .description, Doc.mem_references_iff.1 own⟩
    · obtain ⟨field, visits, inTable⟩ := List.mem_flatMap.1 nested
      obtain ⟨group, documented, within, _⟩ := mem_visited_iff.1 visits
      rcases List.mem_append.1 inTable with ofTable | ofRow
      · exact ⟨_, .field documented within, Doc.mem_references_iff.1 ofTable⟩
      · obtain ⟨child, below, ofChild⟩ := List.mem_flatMap.1 ofRow
        exact ⟨_, .field documented (within.of_child below), Doc.mem_references_iff.1 ofChild⟩
  · rintro ⟨doc, has, defines⟩
    cases has with
    | description => exact List.mem_append_left _ (Doc.mem_references_iff.2 defines)
    | @field group field documented within =>
        rcases within.eq_or_child with rfl | ⟨parent, above, below⟩
        · rw [doc_of_group documented] at defines
          exact absurd defines (Doc.not_defines_empty name target)
        · -- A field under another stands in a row of the table of that one.
          have visits : parent ∈ visited options input :=
            mem_visited_iff.2 ⟨group, documented, above, typeName?_of_child below⟩
          refine List.mem_append_right _ (List.mem_flatMap.2 ⟨parent, visits, ?_⟩)
          refine List.mem_append_right _ (List.mem_flatMap.2 ⟨field, below, ?_⟩)
          exact Doc.mem_references_iff.2 defines

end Contribution

/-! ## All variables -/

namespace Manifest

variable [PatternEngine] {options : Options} {inputs : List Variable}

theorem getElem?_references (options : Options) (inputs : List Variable) (name : String) :
    (ofVariables options inputs).references[name]? =
      inputs.findSomeRev? fun input =>
        lastEntry name (Contribution.ofVariable options input).references :=
  getElem?_ofVariables (fun _ _ => rfl) rfl options inputs name

/-- What a map holds was put there by the last variable that had anything for the key. -/
theorem getElem?_references_eq_some_iff {name target : String} :
    (ofVariables options inputs).references[name]? = some target ↔
      ∃ before input after, inputs = before ++ input :: after ∧
        lastEntry name (Contribution.ofVariable options input).references = some target ∧
          ∀ later ∈ after, ∀ other, ¬ later.Defines options name other := by
  simp only [getElem?_references, findSomeRev?_eq_some_iff, lastEntry_eq_none_iff,
    Contribution.mem_references_iff]

/-- **Reference links are neither lost nor invented.** The names of the reference links are those
that some variable defines, and each leads to a target that the last variable defining the name
has given it. -/
theorem references_exact (options : Options) (inputs : List Variable) :
    (∀ name, name ∈ (ofVariables options inputs).references ↔
      ∃ input ∈ inputs, ∃ target, input.Defines options name target) ∧
    ∀ name target, (ofVariables options inputs).references[name]? = some target →
      ∃ before input after, inputs = before ++ input :: after ∧
        input.Defines options name target ∧
          ∀ later ∈ after, ∀ other, ¬ later.Defines options name other := by
  constructor
  · intro name
    have absent : (ofVariables options inputs).references[name]? = none ↔
        ∀ input ∈ inputs, ∀ target, ¬ input.Defines options name target := by
      simp only [getElem?_references, findSomeRev?_eq_none_iff, lastEntry_eq_none_iff,
        Contribution.mem_references_iff]
    rw [Std.ExtTreeMap.mem_iff_isSome_getElem?, Option.isSome_iff_ne_none, ne_eq, absent]
    simp only [not_forall, not_not, exists_prop]
  · intro name target found
    obtain ⟨before, input, after, parts, last, others⟩ := getElem?_references_eq_some_iff.1 found
    exact ⟨before, input, after, parts,
      Contribution.mem_references_iff.1 (mem_of_lastEntry last), others⟩

omit [PatternEngine] in
/-- Two variables with a link of one name, the second in the documentation of a field. -/
theorem references_exact_twoVariables :
    let _ : PatternEngine := .lenient
    let type := "object(\x7b /// @link \x7br\x7d b\n port = any \x7d)"
    let inputs : List Variable := [
      { name := "x", description := "@link \x7br\x7d a" }, { name := "y", type := type }]
    (ofVariables {} inputs).references["r"]? = some "b" ∧
      ∃ before input after, inputs = before ++ input :: after ∧ input.Defines {} "r" "b" ∧
        ∀ later ∈ after, ∀ other, ¬ later.Defines {} "r" other := by
  intro _ type inputs
  have found : (ofVariables {} inputs).references["r"]? = some "b" := by
    decide +kernel
  exact ⟨found, (references_exact {} inputs).2 "r" "b" found⟩

end Manifest

/-! ## Two orders of fields -/

namespace Field

/-- Whether the field has no type of its own. -/
def isPlain (field : Field) : Bool := field.typeName?.isNone

mutual

/-- The field and all fields under it as they are declared, each before those under it. -/
def declared : Field → List Field
  | ⟨name, doc, .plain signature, presence⟩ => [⟨name, doc, .plain signature, presence⟩]
  | ⟨name, doc, .nested collection typeName children, presence⟩ =>
    ⟨name, doc, .nested collection typeName children, presence⟩ :: declaredAmong children

/-- The fields and all fields under them as they are declared. -/
def declaredAmong : List Field → List Field
  | [] => []
  | field :: rest => field.declared ++ declaredAmong rest

end

mutual

/-- The field and all fields under it as their tables tell of them: in each object first the plain
fields and then the others, each with all fields under it. -/
def tabled : Field → List Field
  | ⟨name, doc, .plain signature, presence⟩ => [⟨name, doc, .plain signature, presence⟩]
  | ⟨name, doc, .nested collection typeName children, presence⟩ =>
    ⟨name, doc, .nested collection typeName children, presence⟩ ::
      (children.filter isPlain ++ tabledAmong children)

/-- The fields that are not plain, with all fields under them. -/
def tabledAmong : List Field → List Field
  | [] => []
  | field :: rest => if field.isPlain then tabledAmong rest else field.tabled ++ tabledAmong rest

end

theorem declared_eq (field : Field) :
    field.declared = field :: field.children.flatMap declared := by
  have among (fields : List Field) : declaredAmong fields = fields.flatMap declared := by
    induction fields with
    | nil => rfl
    | cons first rest ih => rw [declaredAmong, ih, List.flatMap_cons]
  obtain ⟨name, doc, type, presence⟩ := field
  cases type with
  | plain signature => rfl
  | nested collection typeName children =>
      rw [declared, among]
      rfl

theorem tabled_eq (field : Field) :
    field.tabled = field :: (field.children.filter isPlain ++
      (field.children.filter (!isPlain ·)).flatMap tabled) := by
  have among (fields : List Field) :
      tabledAmong fields = (fields.filter (!isPlain ·)).flatMap tabled := by
    induction fields with
    | nil => rfl
    | cons first rest ih =>
        rw [tabledAmong, ih, List.filter_cons]
        cases first.isPlain <;> simp
  obtain ⟨name, doc, type, presence⟩ := field
  cases type with
  | plain signature => rfl
  | nested collection typeName children =>
      rw [tabled, among]
      rfl

section Plain

variable {field : Field}

theorem children_of_isPlain (plain : field.isPlain = true) : field.children = [] := by
  obtain ⟨name, doc, type, presence⟩ := field
  cases type with
  | plain signature => rfl
  | nested collection typeName children => cases plain

theorem declared_of_isPlain (plain : field.isPlain = true) : field.declared = [field] := by
  rw [declared_eq, children_of_isPlain plain, List.flatMap_nil]

theorem nestedFields_of_isPlain (plain : field.isPlain = true) : field.nestedFields = [] := by
  have unnamed : field.typeName?.isSome = false := by
    rw [← Option.not_isNone, ← isPlain, plain]
    rfl
  rw [nestedFields_eq, children_of_isPlain plain, unnamed]
  rfl

end Plain

theorem flatMap_declared_plain (fields : List Field) :
    (fields.filter isPlain).flatMap declared = fields.filter isPlain := by
  rw [List.flatMap_congr fun one member => declared_of_isPlain (List.mem_filter.1 member).2]
  exact List.flatMap_singleton' _

/-- Fields as they are declared, the plain ones brought to the front. -/
theorem flatMap_declared_perm (fields : List Field) :
    (fields.filter isPlain ++ (fields.filter (!isPlain ·)).flatMap declared).Perm
      (fields.flatMap declared) := by
  rw [← flatMap_declared_plain, ← List.flatMap_append]
  exact (List.filter_append_perm isPlain fields).flatMap_right declared

/-- Both orders have the same fields, each as often as the other. -/
theorem tabled_perm_declared (field : Field) : field.tabled.Perm field.declared := by
  induction field using child_induction with
  | step field each =>
      rw [tabled_eq, declared_eq]
      refine List.Perm.cons field ((List.Perm.append_left _ ?_).trans (flatMap_declared_perm _))
      exact List.Perm.flatMap_left _ fun child member => each child (List.mem_filter.1 member).1

/-- No plain field of the object comes after one that is not. -/
def PlainFirst (field : Field) : Prop :=
  field.children.Pairwise fun before after => after.isPlain = true → before.isPlain = true

instance (field : Field) : Decidable field.PlainFirst :=
  inferInstanceAs (Decidable (List.Pairwise _ field.children))

theorem filter_append_of_pairwise {α : Type} {p : α → Bool} {items : List α}
    (ordered : items.Pairwise fun before after => p after = true → p before = true) :
    items.filter p ++ items.filter (!p ·) = items := by
  induction items with
  | nil => rfl
  | cons first rest ih =>
      obtain ⟨here, later⟩ := List.pairwise_cons.1 ordered
      cases kind : p first with
      | true => simp [kind, ih later]
      | false =>
          have others : ∀ item ∈ rest, p item = false := by
            intro item member
            by_contra other
            have front := here item member (by simpa using other)
            rw [kind] at front
            cases front
          have none : rest.filter p = [] := List.filter_eq_nil_iff.2 (by simpa using others)
          have all : rest.filter (!p ·) = rest := List.filter_eq_self.2 (by simpa using others)
          simp [kind, none, all]

/-- Where the plain fields come first anyway the orders are one. -/
theorem tabled_eq_declared {field : Field} (ordered : ∀ inner ∈ field.declared, inner.PlainFirst) :
    field.tabled = field.declared := by
  induction field using child_induction with
  | step field each =>
      rw [declared_eq] at ordered
      obtain ⟨here, under⟩ := List.forall_mem_cons.1 ordered
      have below : (field.children.filter (!isPlain ·)).flatMap tabled =
          (field.children.filter (!isPlain ·)).flatMap declared := by
        refine List.flatMap_congr fun child member => ?_
        have among := (List.mem_filter.1 member).1
        exact each child among fun inner member =>
          under inner (List.mem_flatMap.2 ⟨child, among, member⟩)
      rw [tabled_eq, declared_eq, below, ← flatMap_declared_plain, ← List.flatMap_append,
        filter_append_of_pairwise here]

/-! ## The last link of a walk -/

/-- The target that the last link of the field's documentation with the name gives it. -/
def target? (name : String) (field : Field) : Option String := field.doc.target? name

theorem lastEntry_tableReferences (name : String) (field : Field) :
    lastEntry name field.tableReferences =
      (field.children.findSomeRev? (target? name)).or (field.target? name) := by
  rw [tableReferences, lastEntry, findSomeRev?_append, findSomeRev?_flatMap, ← lastEntry,
    Doc.lastEntry_references]
  refine congrArg (Option.or · _) (findSomeRev?_congr fun child _ => ?_)
  rw [← lastEntry, Doc.lastEntry_references]
  rfl

/-- **A field that is told of twice counts the second time.** What the tables of a field leave is
the last link of its fields in the order of the tables. -/
theorem lastEntry_nestedFields (name : String) {field : Field} (nested : field.isPlain = false) :
    lastEntry name (field.nestedFields.flatMap tableReferences) =
      field.tabled.findSomeRev? (target? name) := by
  induction field using child_induction with
  | step field each =>
      have own : (if field.typeName?.isSome then [field] else []) = [field] := by
        rw [isPlain, Option.isNone_eq_false_iff] at nested
        exact if_pos nested
      -- The tables below belong to the fields that are not plain.
      have below : lastEntry name ((field.children.flatMap nestedFields).flatMap tableReferences) =
          (field.children.filter (!isPlain ·)).findSomeRev? fun child =>
            child.tabled.findSomeRev? (target? name) := by
        rw [List.flatMap_assoc, lastEntry, findSomeRev?_flatMap, ← findSomeRev?_filter]
        · refine findSomeRev?_congr fun child member => ?_
          obtain ⟨among, kind⟩ := List.mem_filter.1 member
          exact each child among (by simpa using kind)
        · intro child _ kind
          rw [nestedFields_of_isPlain (by simpa using kind)]
          rfl
      rw [nestedFields_eq, own, List.singleton_append, List.flatMap_cons, lastEntry,
        findSomeRev?_append, ← lastEntry, below, ← lastEntry, lastEntry_tableReferences, tabled_eq,
        findSomeRev?_cons, findSomeRev?_append, findSomeRev?_flatMap, Option.or_assoc]
      cases last : (field.children.filter (!isPlain ·)).findSomeRev? fun child =>
          child.tabled.findSomeRev? (target? name) with
      | some target => rfl
      | none =>
          -- Where the tables below leave nothing, no row of a field with a table left anything.
          rw [Option.none_or, Option.none_or, findSomeRev?_filter]
          intro child among kind
          have nothing := findSomeRev?_eq_none_iff.1 last child (by simp [among, kind])
          rw [tabled_eq, findSomeRev?_eq_none_iff] at nothing
          exact nothing child List.mem_cons_self

end Field

/-! ## The links of one variable -/

namespace Variable

/-- The fields of the variable's group in an order of fields. -/
def fieldsIn [PatternEngine] (order : Field → List Field) (options : Options)
    (input : Variable) : List Field :=
  match (input.group options).outcome with
  | .ok (some group) => order group.field
  | _ => []

/-- The directives of the variable: those of its description, then those on its fields in an order
of fields. -/
def directivesIn [PatternEngine] (order : Field → List Field) (options : Options)
    (input : Variable) : List Directive :=
  (Doc.ofDescription input.description).directives ++
    (input.fieldsIn order options).flatMap fun field => field.doc.directives

variable [PatternEngine] {options : Options} {input : Variable}

theorem fieldsIn_tabled_perm :
    (input.fieldsIn Field.tabled options).Perm (input.fieldsIn Field.declared options) := by
  unfold fieldsIn
  split
  · exact Field.tabled_perm_declared _
  · exact .nil

theorem fieldsIn_tabled_eq
    (ordered : ∀ field ∈ input.fieldsIn Field.declared options, field.PlainFirst) :
    input.fieldsIn Field.tabled options = input.fieldsIn Field.declared options := by
  unfold fieldsIn at ordered ⊢
  split
  · rename_i group documented
    rw [documented] at ordered
    exact Field.tabled_eq_declared ordered
  · rfl

theorem lastEntry_visited (name : String) :
    lastEntry name ((Contribution.visited options input).flatMap Field.tableReferences) =
      (input.fieldsIn Field.tabled options).findSomeRev? (Field.target? name) := by
  unfold Contribution.visited fieldsIn
  cases documented : (input.group options).outcome with
  | error error => rfl
  | ok found =>
      cases found with
      | none => rfl
      | some group =>
          change lastEntry name (group.field.nestedFields.flatMap Field.tableReferences) =
            group.field.tabled.findSomeRev? (Field.target? name)
          cases plain : group.field.isPlain with
          | true =>
              -- The outermost field stands in no row, and its documentation is empty.
              rw [Field.nestedFields_of_isPlain plain, Field.tabled_eq,
                Field.children_of_isPlain plain]
              have own : Field.target? name group.field = none := by
                rw [Field.target?, Contribution.doc_of_group documented]
                rfl
              exact (findSomeRev?_eq_none_iff.2 (by simpa using own)).symm
          | false => exact Field.lastEntry_nestedFields name plain

end Variable

namespace Manifest

/-- **The last link of a variable stays.** The reference links of one variable are those that its
directives leave, the last one for each name, where the fields come in the order of the tables.
This order has the fields that are declared, each as often, and it is the order in which they are
declared where in every object the plain fields come first. -/
theorem references_of_one [PatternEngine] (options : Options) (input : Variable) :
    (∀ name, (ofVariables options [input]).references[name]? =
      (input.directivesIn Field.tabled options).findSomeRev? (Directive.target? name)) ∧
    (input.fieldsIn Field.tabled options).Perm (input.fieldsIn Field.declared options) ∧
    ((∀ field ∈ input.fieldsIn Field.declared options, field.PlainFirst) →
      input.directivesIn Field.tabled options = input.directivesIn Field.declared options) := by
  refine ⟨fun name => ?_, Variable.fieldsIn_tabled_perm, fun ordered => ?_⟩
  · have single : (ofVariables options [input]).references[name]? =
        lastEntry name (Contribution.ofVariable options input).references := by
      rw [getElem?_references]
      exact findSomeRev?_cons .. |>.trans Option.none_or
    rw [single, Variable.directivesIn, findSomeRev?_append, findSomeRev?_flatMap]
    change lastEntry name ((Doc.ofDescription input.description).references ++
      (Contribution.visited options input).flatMap Field.tableReferences) = _
    rw [lastEntry, findSomeRev?_append, ← lastEntry, Variable.lastEntry_visited, ← lastEntry,
      Doc.lastEntry_references]
    rfl
  · rw [Variable.directivesIn, Variable.fieldsIn_tabled_eq ordered, Variable.directivesIn]

/-- An object whose field with a table comes last. -/
theorem plainFirst_declared :
    let _ : PatternEngine := .lenient
    let input : Variable := {
      name := "net"
      type := some ("object(\x7b /// @link \x7br\x7d a\n port = any\n" ++
        " /// @link \x7br\x7d b\n dns = object(\x7b ip = any \x7d) \x7d)") }
    (∀ field ∈ input.fieldsIn Field.declared {}, field.PlainFirst) ∧
      input.directivesIn Field.tabled {} = input.directivesIn Field.declared {} ∧
      (ofVariables {} [input]).references["r"]? = some "b" := by
  intro _ input
  have ordered : ∀ field ∈ input.fieldsIn Field.declared {}, field.PlainFirst := by
    decide +kernel
  obtain ⟨last, _, same⟩ := references_of_one {} input
  refine ⟨ordered, same ordered, ?_⟩
  rw [last]
  decide +kernel

/-- A field with a table that is declared before a plain one replaces its link. -/
theorem declaredLast_replaced :
    let _ : PatternEngine := .lenient
    ¬ ∀ (options : Options) (input : Variable) (name : String),
      (ofVariables options [input]).references[name]? =
        (input.directivesIn Field.declared options).findSomeRev? (Directive.target? name) := by
  intro _ always
  let input : Variable := {
    name := "net"
    type := some ("object(\x7b /// @link \x7br\x7d a\n dns = object(\x7b ip = any \x7d)\n" ++
      " /// @link \x7br\x7d b\n port = any \x7d)") }
  have found : (ofVariables {} [input]).references["r"]? = some "a" := by
    decide +kernel
  have last : (input.directivesIn Field.declared {}).findSomeRev? (Directive.target? "r") =
      some "b" := by
    decide +kernel
  have same := always {} input "r"
  rw [found, last] at same
  exact absurd same (by decide)

end Manifest

end InputDocs

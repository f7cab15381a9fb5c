import InputDocs.Proofs.Field.Resolution
import Mathlib.Logic.Function.Defs

/-!
# Proofs.Field.OptionalChain -- types in calls of `optional`

An expression is a chain of calls of `optional`, each the first argument of the one around it, and
at the end of the chain either a core that is no such call or a call without arguments. There is
one such chain for every expression (`OptionalChain.expr_bijective`).

Resolution goes down the chain and writes on its way back, so that an outer call has the last word.
What it leaves has a closed form (`Field.outcome_resolve_chain`): the type is that of the core
alone, and the chain decides about the presence and about nothing else. The default is that of the
outermost call with a second argument, and calls without one neither set nor reset it
(`OptionalChain.default?`). An error is one of the core, too.
-/

namespace InputDocs

set_option autoImplicit false

open TypeExpr (optional?)

/-- Calls of `optional` around each other: for each call that has arguments those after the first,
the outermost call in front, and what stands inside them. Nothing stands there if the innermost
call has no argument. -/
structure OptionalChain where
  layers : List (List TypeExpr)
  core : Option TypeExpr
  plain : ∀ expr ∈ core, expr.optional? = none

namespace OptionalChain

/-- An expression in calls of `optional` with these arguments after it. -/
def wrap (layers : List (List TypeExpr)) (inner : TypeExpr) : TypeExpr :=
  layers.foldr (fun others inner => .call "optional" (inner :: others)) inner

/-- The expression that the chain makes up. -/
def expr (chain : OptionalChain) : TypeExpr :=
  wrap chain.layers (chain.core.getD (.call "optional" []))

/-- How many calls the chain has. -/
def length (chain : OptionalChain) : Nat :=
  chain.layers.length + if chain.core.isSome then 0 else 1

/-- The default of the outermost call with a second argument. -/
def default? (chain : OptionalChain) : Option String :=
  (chain.layers.findSome? List.head?).bind TypeExpr.defaultText

/-- The presence that the calls give. -/
def presence (chain : OptionalChain) : Presence :=
  if chain.length = 0 then .required else .optional chain.default?

theorem wrap_cons (others : List TypeExpr) (layers : List (List TypeExpr)) (inner : TypeExpr) :
    wrap (others :: layers) inner = .call "optional" (wrap layers inner :: others) := rfl

/-! ## One chain for every expression -/

/-- The end of a chain is told apart from a layer: it is no call with an argument. -/
theorem optional?_end {core : Option TypeExpr} (plain : ∀ expr ∈ core, expr.optional? = none) :
    (core.getD (.call "optional" [])).optional? = if core.isSome then none else some [] := by
  cases core with
  | none => exact TypeExpr.optional?_call []
  | some expr => exact plain expr rfl

theorem wrap_ne_end {core : Option TypeExpr} (plain : ∀ expr ∈ core, expr.optional? = none)
    (others : List TypeExpr) (layers : List (List TypeExpr)) (inner : TypeExpr) :
    core.getD (.call "optional" []) ≠ wrap (others :: layers) inner := by
  intro same
  have peeled := congrArg optional? same
  rw [optional?_end plain, wrap_cons, TypeExpr.optional?_call] at peeled
  split at peeled
  · cases peeled
  · cases peeled

theorem wrap_injective {layers layers' : List (List TypeExpr)} {core core' : Option TypeExpr}
    (plain : ∀ expr ∈ core, expr.optional? = none) (plain' : ∀ expr ∈ core', expr.optional? = none)
    (same : wrap layers (core.getD (.call "optional" [])) =
      wrap layers' (core'.getD (.call "optional" []))) :
    layers = layers' ∧ core = core' := by
  induction layers generalizing layers' with
  | nil =>
      cases layers' with
      | nil =>
          refine ⟨rfl, ?_⟩
          have peeled := congrArg optional? same
          change (core.getD _).optional? = (core'.getD _).optional? at peeled
          rw [optional?_end plain, optional?_end plain'] at peeled
          cases core with
          | none =>
              cases core' with
              | none => rfl
              | some expr' => cases peeled
          | some expr =>
              cases core' with
              | none => cases peeled
              | some expr' => exact congrArg some same
      | cons others' layers' => exact absurd same (wrap_ne_end plain others' layers' _)
  | cons others layers ih =>
      cases layers' with
      | nil => exact absurd same.symm (wrap_ne_end plain' others layers _)
      | cons others' layers' =>
          rw [wrap_cons, wrap_cons, TypeExpr.call.injEq, List.cons.injEq] at same
          obtain ⟨_, inner, sameOthers⟩ := same
          obtain ⟨sameLayers, sameCore⟩ := ih inner
          exact ⟨by rw [sameOthers, sameLayers], sameCore⟩

theorem expr_injective : Function.Injective expr := by
  rintro ⟨layers, core, plain⟩ ⟨layers', core', plain'⟩ same
  obtain ⟨rfl, rfl⟩ := wrap_injective plain plain' same
  rfl

theorem expr_surjective : Function.Surjective expr := by
  intro whole
  induction whole using TypeExpr.peeling_induction with
  | plain expr plain => exact ⟨⟨[], some expr, by simpa using plain⟩, rfl⟩
  | bare => exact ⟨⟨[], none, by simp⟩, rfl⟩
  | optional inner others ih =>
      obtain ⟨⟨layers, core, plain⟩, rfl⟩ := ih
      exact ⟨⟨others :: layers, core, plain⟩, rfl⟩

/-- **Every expression is one chain.** -/
theorem expr_bijective : Function.Bijective expr := ⟨expr_injective, expr_surjective⟩

/-! ## What is peeled off -/

theorem core_expr (chain : OptionalChain) : chain.expr.core = chain.core := by
  obtain ⟨layers, core, plain⟩ := chain
  induction layers with
  | nil =>
      cases core with
      | none => exact TypeExpr.core_of_bare (TypeExpr.optional?_call [])
      | some expr => exact TypeExpr.core_of_plain (plain expr rfl)
  | cons others layers ih =>
      exact (TypeExpr.core_of_optional (TypeExpr.optional?_call _)).trans ih

/-- Without a call there is no default. -/
theorem default?_presence (chain : OptionalChain) : chain.presence.default? = chain.default? := by
  unfold presence
  split
  · rename_i none
    have noLayers : chain.layers = [] :=
      List.eq_nil_of_length_eq_zero (Nat.eq_zero_of_add_eq_zero_right none)
    rw [default?, noLayers]
    rfl
  · rfl

theorem isOptional_presence (chain : OptionalChain) :
    chain.presence.isOptional = true ↔ chain.length ≠ 0 := by
  unfold presence
  split
  · rename_i none
    exact iff_of_false Bool.false_ne_true (not_not_intro none)
  · rename_i any
    exact iff_of_true rfl any

theorem presence_expr (chain : OptionalChain) : chain.expr.presence = chain.presence := by
  obtain ⟨layers, core, plain⟩ := chain
  induction layers with
  | nil =>
      cases core with
      | none => exact TypeExpr.presence_of_bare (TypeExpr.optional?_call [])
      | some expr => exact TypeExpr.presence_of_plain (plain expr rfl)
  | cons others layers ih =>
      have outer : presence ⟨others :: layers, core, plain⟩ =
          .optional (default? ⟨others :: layers, core, plain⟩) := by
        refine if_neg ?_
        simp only [length, List.length_cons]
        omega
      refine (TypeExpr.presence_of_optional (TypeExpr.optional?_call _)).trans ?_
      change Presence.optional (TypeExpr.defaultAfter
        (expr ⟨layers, core, plain⟩).presence.default? others) = _
      rw [ih, default?_presence, outer]
      -- The default of the layers inside counts if this call has no second argument.
      cases others with
      | nil => rfl
      | cons default more => rfl

end OptionalChain

namespace Field

variable [PatternEngine]

theorem outcome_resolve_eq (policy : DuplicatePolicy) (property : Property TypeExpr) :
    (resolve policy property).outcome =
      (typeOf policy property.key property.value.core).map fun type =>
        ⟨property.key, (property.comment.map Doc.ofComment).getD .empty, type,
          property.value.presence⟩ := by
  rw [resolve, Traced.outcome_bind, outcome_resolveType]
  cases typeOf policy property.key property.value.core with
  | error error => rfl
  | ok type => rfl

/-- **Resolution down a chain in closed form**, failures included. -/
theorem outcome_resolve_chain (policy : DuplicatePolicy) (comment : Option Comment) (key : String)
    (chain : OptionalChain) :
    (resolve policy ⟨comment, key, chain.expr⟩).outcome =
      match chain.core with
      | none => .ok ⟨key, (comment.map Doc.ofComment).getD .empty, .plain "", chain.presence⟩
      | some core =>
        (resolve policy ⟨comment, key, core⟩).outcome.map fun alone =>
          { alone with presence := chain.presence } := by
  rw [outcome_resolve_eq, chain.core_expr, chain.presence_expr]
  cases left : chain.core with
  | none => rfl
  | some core =>
      have kept : core.core = some core := TypeExpr.core_of_plain (chain.plain core left)
      dsimp only
      rw [outcome_resolve_eq, kept]
      cases typeOf policy key (some core) with
      | error error => rfl
      | ok type => rfl

/-- **What calls of `optional` do to a field.** Every type is one chain of them; they make the field
optional and give the default of the outermost call that has one, and everything else is that of
the core, resolved alone. -/
theorem resolve_unwraps (value : TypeExpr) :
    ∃ chain : OptionalChain, chain.expr = value ∧ (∀ other, other.expr = value → other = chain) ∧
      ∀ policy comment key field, (resolve policy ⟨comment, key, value⟩).outcome = .ok field →
        (field.presence.isOptional = true ↔ chain.length ≠ 0) ∧
        (match chain.core with
          | some core =>
            ∃ alone, (resolve policy ⟨comment, key, core⟩).outcome = .ok alone ∧
              field.typeName? = alone.typeName? ∧ field.children = alone.children ∧
                field.signature = alone.signature
          | none => field.typeName? = none ∧ field.children = [] ∧ field.signature = "") ∧
        field.doc = (comment.map Doc.ofComment).getD .empty ∧
        field.presence.default? = chain.default? := by
  obtain ⟨chain, rfl⟩ := OptionalChain.expr_surjective value
  refine ⟨chain, rfl, fun other same => OptionalChain.expr_injective same, ?_⟩
  intro policy comment key field done
  obtain ⟨_, _, documented, present⟩ := resolve_ok_iff.1 done
  rw [chain.presence_expr] at present
  refine ⟨?_, ?_, documented, present ▸ chain.default?_presence⟩
  · rw [present]
    exact chain.isOptional_presence
  · rw [outcome_resolve_chain] at done
    cases left : chain.core with
    | none =>
        rw [left] at done
        cases done
        exact ⟨rfl, rfl, rfl⟩
    | some core =>
        rw [left] at done
        dsimp only at done ⊢
        cases resolved : (resolve policy ⟨comment, key, core⟩).outcome with
        | error error =>
            rw [resolved] at done
            cases done
        | ok alone =>
            rw [resolved] at done
            cases done
            exact ⟨alone, rfl, rfl, rfl, rfl⟩

omit [PatternEngine] in
/-- A map of objects in three calls: the outermost one has no default, and the default of the next
one hides that of the innermost. -/
theorem resolve_unwraps_thrice :
    let _ : PatternEngine := .lenient
    let disks : TypeExpr := .call "map" [.object [⟨none, "size", .word "number"⟩]]
    let inner : TypeExpr := .call "optional" [disks, .word "null", .number "1"]
    let value : TypeExpr := .call "optional" [.call "optional" [inner, .object []]]
    let type : FieldType Field :=
      .nested .map "Disks" [⟨"size", .empty, .plain "number", .required⟩]
    let field : Field := ⟨"disks", .empty, type, .optional (some "\x7b\x7d")⟩
    ∃ chain : OptionalChain, chain.expr = value ∧ chain.length = 3 ∧
      chain.default? = some "\x7b\x7d" ∧
      (resolve .reject ⟨none, "disks", value⟩).outcome = .ok field ∧
      ∃ core ∈ chain.core, ∃ alone, (resolve .reject ⟨none, "disks", core⟩).outcome = .ok alone ∧
        field.signature = alone.signature ∧ field.children = alone.children := by
  intro _ disks inner value type field
  let chain : OptionalChain :=
    ⟨[[], [.object []], [.word "null", .number "1"]], some disks, by simp [disks, TypeExpr.optional?]⟩
  have alone : (resolve .reject ⟨none, "disks", disks⟩).outcome =
      .ok ⟨"disks", .empty, type, .required⟩ := by
    unfold disks type
    with_unfolding_all rfl
  have done : (resolve .reject ⟨none, "disks", value⟩).outcome = .ok field := by
    rw [show value = chain.expr from rfl, outcome_resolve_chain]
    simp only [chain, alone]
    rfl
  obtain ⟨only, spelled, unique, unwraps⟩ := resolve_unwraps value
  obtain rfl := unique chain rfl
  obtain ⟨_, ⟨core, resolved, _, below, shown⟩, _, default⟩ := unwraps _ _ _ _ done
  exact ⟨chain, spelled, rfl, default.symm, done, disks, rfl, core, resolved, shown, below⟩

end Field

end InputDocs

import InputDocs.Proofs.Field.Expansion

/-!
# Proofs.Field.Events -- what a resolution reports

A resolution reports what it leaves out or sets aside, and nothing else: neither that a declaration
is left undocumented nor that a type name is used again, which are for the manifest to say
(`Event.OfResolution`, `Field.events_resolveGroup`).

The proof goes along the resolution: the calls of `optional` are taken off one by one, and what is
left expands the properties that it declares.
-/

namespace InputDocs

set_option autoImplicit false

namespace Traced

variable {ε α β : Type}

/-- What holds of the events of two computations holds of those of both in order. -/
theorem forall_events_bind {p : Event → Prop} {first : Traced ε α} {next : α → Traced ε β}
    (before : ∀ event ∈ first.events, p event)
    (after : ∀ value, first.outcome = .ok value → ∀ event ∈ (next value).events, p event) :
    ∀ event ∈ (first >>= next).events, p event := by
  intro event member
  rw [events_bind] at member
  rcases List.mem_append.1 member with early | late
  · exact before event early
  · cases done : first.outcome with
    | error error =>
        rw [done] at late
        cases late
    | ok value =>
        rw [done] at late
        exact after value done event late

theorem forall_events_emit {p : Event → Prop} {event : Event} (holds : p event) :
    ∀ told ∈ (emit event : Traced ε Unit).events, p told := by
  intro told member
  rw [events_emit, List.mem_singleton] at member
  rwa [member]

theorem forall_events_pure {p : Event → Prop} (value : α) :
    ∀ told ∈ (pure value : Traced ε α).events, p told :=
  fun _ member => absurd member List.not_mem_nil

end Traced

/-- The event tells what a resolution left out or set aside. -/
def Event.OfResolution : Event → Prop
  | .notDocumented _ _ | .typeNameReused _ => False
  | _ => True

namespace Field

open TypeExpr (optional? expansion?)

variable [PatternEngine] {policy : DuplicatePolicy}

/-! ## Events -/

omit [PatternEngine] in
theorem events_defaultText (expr : TypeExpr) :
    ∀ event ∈ (defaultText expr).events, event.OfResolution := by
  unfold defaultText
  split
  · exact Traced.forall_events_pure _
  · exact Traced.forall_events_bind (Traced.forall_events_emit trivial)
      fun _ _ => Traced.forall_events_pure _
  · exact Traced.forall_events_pure _

theorem events_resolveAll {properties : List (Property TypeExpr)}
    (each : ∀ property ∈ properties, ∀ event ∈ (resolve policy property).events,
      event.OfResolution) (fields : List Field) :
    ∀ event ∈ (resolveAll policy fields properties).events, event.OfResolution := by
  induction properties generalizing fields with
  | nil =>
      rw [resolveAll]
      exact Traced.forall_events_pure _
  | cons property rest ih =>
      obtain ⟨first, others⟩ := List.forall_mem_cons.1 each
      rw [resolveAll]
      refine Traced.forall_events_bind first fun field _ => ?_
      split
      · cases policy with
        | lastWins =>
            exact Traced.forall_events_bind (Traced.forall_events_emit trivial)
              fun _ _ => ih others _
        | reject => exact fun event member => absurd member List.not_mem_nil
      · exact ih others _

theorem events_resolveType (name : String) {expr : TypeExpr}
    (each : ∀ property ∈ expr.properties, ∀ event ∈ (resolve policy property).events,
      event.OfResolution) :
    ∀ event ∈ (resolveType policy name expr).events, event.OfResolution := by
  induction expr using TypeExpr.peeling_induction with
  | plain expr plain =>
      rw [resolveType_plain policy name plain]
      split
      · exact Traced.forall_events_pure _
      · rename_i collection first rest expanded
        rw [TypeExpr.properties_plain plain, expanded] at each
        exact Traced.forall_events_bind (events_resolveAll each [])
          fun _ _ => Traced.forall_events_pure _
      · exact Traced.forall_events_pure _
  | bare =>
      rw [resolveType_bare]
      exact Traced.forall_events_bind (Traced.forall_events_emit trivial)
        fun _ _ => Traced.forall_events_pure _
  | optional inner others ih =>
      rw [TypeExpr.properties_optional] at each
      rw [resolveType_optional]
      refine Traced.forall_events_bind (ih each) fun found _ => ?_
      cases others with
      | nil => exact Traced.forall_events_pure _
      | cons default more =>
          refine Traced.forall_events_bind (events_defaultText default) fun shown _ => ?_
          split
          · exact Traced.forall_events_bind (Traced.forall_events_emit trivial)
              fun _ _ => Traced.forall_events_pure _
          · exact Traced.forall_events_pure _

/-- **A resolved property reports only what its resolution left out or set aside.** -/
theorem events_resolve (property : Property TypeExpr) :
    ∀ event ∈ (resolve policy property).events, event.OfResolution := by
  induction property using Property.declared_induction with
  | step property each =>
      rw [resolve]
      exact Traced.forall_events_bind (events_resolveType _ each)
        fun _ _ => Traced.forall_events_pure _

theorem events_resolveGroup (root : TypeExpr) (name : String) :
    ∀ event ∈ (resolveGroup policy root name).events, event.OfResolution := by
  unfold resolveGroup
  split
  · split
    · refine Traced.forall_events_bind (events_resolveType _ ?_)
        fun _ _ => Traced.forall_events_pure _
      exact fun property _ => events_resolve property
    · exact Traced.forall_events_bind (Traced.forall_events_emit trivial)
        fun _ _ => Traced.forall_events_pure _
  · exact Traced.forall_events_pure _

end Field

/-- **Documenting a declaration reports only what its resolution left out or set aside.** -/
theorem events_document [PatternEngine] (options : Options) (name text : String) :
    ∀ event ∈ (document options name text).events, event.OfResolution := by
  unfold document
  split
  · exact fun event member => absurd member List.not_mem_nil
  · exact Field.events_resolveGroup _ _

end InputDocs

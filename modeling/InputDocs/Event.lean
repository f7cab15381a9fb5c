import InputDocs.TypeExpr.Parse

/-!
# Event -- what is worth telling about a run

Documenting a declaration may leave something out or set something aside; each such occasion is
an event. `Traced` is a computation that reports events and may stop with an error. The events
reported before it stopped are kept (`events_bind`).
-/

namespace InputDocs

set_option autoImplicit false

/-- A key that stands twice in one object literal. -/
structure DuplicateKey where
  key : String
  deriving DecidableEq, Repr

/-- The wording of the error. -/
def DuplicateKey.message (error : DuplicateKey) : String :=
  "duplicate property key `" ++ error.key ++ "`"

/-- Why a declaration cannot be documented. -/
inductive DocumentError where
  | parse (error : ParseError)
  | duplicate (error : DuplicateKey)
  deriving DecidableEq, Repr

/-- The wording of the error. -/
def DocumentError.message : DocumentError → String
  | parse error => error.message
  | duplicate error => error.message

/-- An occasion worth telling. -/
inductive Event where
  /-- A declaration is a call, but not of an object, an optional or a collection. -/
  | notObjectShaped (name call : String)
  | optionalWithoutType (field : String)
  /-- An optional has arguments after its default. -/
  | extraArguments (field : String) (count : Nat)
  /-- A default is an object literal with properties and cannot be shown. -/
  | literalDefault
  | keyReplaced (key : String)
  | notDocumented (input : String) (error : DocumentError)
  | typeNameReused (typeName : String)
  deriving DecidableEq, Repr

/-- How much an event matters. -/
inductive Level where
  | debug
  | warn
  deriving DecidableEq, Repr

namespace Event

/-- The level of an event: only a declaration left undocumented is a warning. -/
def level : Event → Level
  | notDocumented _ _ => .warn
  | _ => .debug

/-- The wording of an event. -/
def message : Event → String
  | notObjectShaped _ _ => "declaration is not object-shaped"
  | optionalWithoutType _ => "optional() without a type argument"
  | extraArguments _ _ => "extra optional() arguments ignored"
  | literalDefault => "object literal default has no flattened form"
  | keyReplaced _ => "duplicate key replaces earlier property"
  | notDocumented _ _ => "type expression not documented"
  | typeNameReused _ => "nested type name reused; later definition kept"

/-- What an event is about. -/
def details : Event → List (String × String)
  | notObjectShaped name call => [("name", name), ("call", call)]
  | optionalWithoutType field => [("field", field)]
  | extraArguments field count => [("field", field), ("count", toString count)]
  | literalDefault => []
  | keyReplaced key => [("key", key)]
  | notDocumented input error => [("variable", input), ("error", error.message)]
  | typeNameReused typeName => [("type_name", typeName)]

end Event

/-- A computation that reports events and may stop with an error. -/
structure Traced (ε α : Type) where
  events : List Event
  outcome : Except ε α

namespace Traced

variable {ε α β : Type}

/-- Report one event. -/
def emit (event : Event) : Traced ε Unit := ⟨[event], .ok ()⟩

/-- Stop with an error. -/
def fail (error : ε) : Traced ε α := ⟨[], .error error⟩

/-- Go on with the value, keeping the events so far. -/
def andThen (first : Traced ε α) (next : α → Traced ε β) : Traced ε β :=
  match first.outcome with
  | .error error => ⟨first.events, .error error⟩
  | .ok value =>
    let second := next value
    ⟨first.events ++ second.events, second.outcome⟩

instance : Monad (Traced ε) where
  pure value := ⟨[], .ok value⟩
  bind := andThen

/-- The same computation with another kind of error. -/
def mapError {ε' : Type} (f : ε → ε') (traced : Traced ε α) : Traced ε' α :=
  ⟨traced.events, traced.outcome.mapError f⟩

@[simp] theorem outcome_pure (value : α) : (pure value : Traced ε α).outcome = .ok value := rfl

@[simp] theorem events_pure (value : α) : (pure value : Traced ε α).events = [] := rfl

@[simp] theorem outcome_emit (event : Event) : (emit event : Traced ε Unit).outcome = .ok () := rfl

@[simp] theorem events_emit (event : Event) : (emit event : Traced ε Unit).events = [event] := rfl

@[simp] theorem outcome_fail (error : ε) : (fail error : Traced ε α).outcome = .error error := rfl

@[simp] theorem events_fail (error : ε) : (fail error : Traced ε α).events = [] := rfl

/-- The outcome is that of the computations without their events. -/
@[simp] theorem outcome_bind (first : Traced ε α) (next : α → Traced ε β) :
    (first >>= next).outcome = first.outcome >>= fun value => (next value).outcome := by
  show (andThen first next).outcome = _
  unfold andThen
  cases first.outcome <;> rfl

/-- Events follow in order, and end where the computation stops. -/
@[simp] theorem events_bind (first : Traced ε α) (next : α → Traced ε β) :
    (first >>= next).events =
      first.events ++ (first.outcome.toOption.map fun value => (next value).events).getD [] := by
  show (andThen first next).events = _
  unfold andThen
  cases first.outcome <;> simp [Except.toOption]

instance : LawfulMonad (Traced ε) := by
  refine LawfulMonad.mk' _ ?_ ?_ ?_
  · intro α ⟨events, outcome⟩
    show andThen _ _ = _
    cases outcome <;> simp [andThen]
  · intro α β value next
    show andThen _ _ = _
    simp [andThen]
  · intro α β γ ⟨events, outcome⟩ next last
    show andThen (andThen _ _) _ = andThen _ fun _ => andThen _ _
    cases outcome with
    | error error => rfl
    | ok value => cases second : (next value).outcome <;> simp [andThen, second]

@[simp] theorem events_map (f : α → β) (traced : Traced ε α) :
    (f <$> traced).events = traced.events := by
  obtain ⟨events, outcome⟩ := traced
  show (andThen _ _).events = _
  cases outcome <;> simp [andThen]

@[simp] theorem outcome_map (f : α → β) (traced : Traced ε α) :
    (f <$> traced).outcome = traced.outcome.map f := by
  obtain ⟨events, outcome⟩ := traced
  show (andThen _ _).outcome = _
  cases outcome <;> rfl

theorem outcome_map_eq_ok_iff {f : α → β} {traced : Traced ε α} {value : β} :
    (f <$> traced).outcome = .ok value ↔
      ∃ before, traced.outcome = .ok before ∧ f before = value := by
  rw [outcome_map]
  cases traced.outcome <;> simp [Except.map]

theorem mapError_map {ε' : Type} (f : ε → ε') (g : α → β) (traced : Traced ε α) :
    (g <$> traced).mapError f = g <$> traced.mapError f := by
  obtain ⟨events, outcome⟩ := traced
  show mapError f (andThen _ _) = andThen _ _
  cases outcome <;> rfl

/-- What follows matters only at the value that is reached. -/
theorem bind_congr_outcome {first : Traced ε α} {next next' : α → Traced ε β}
    (same : ∀ value, first.outcome = .ok value → next value = next' value) :
    first >>= next = first >>= next' := by
  show andThen _ _ = andThen _ _
  unfold andThen
  cases reached : first.outcome with
  | error error => rfl
  | ok value => simp only [same value reached]

end Traced

end InputDocs

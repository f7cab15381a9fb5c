import InputDocs.Proofs.TypeExpr.Reader

/-!
# Proofs.TypeExpr.Nesting -- what one step of the reader can do, under every limit

The limit is looked at where a call or an object literal opens and nowhere else. Here this is said
once, for all limits together (`State.step_form`): on a token the reader goes on in one state under
every limit, or it opens something and then the limit decides, or it refuses the token under every
limit with the same message.

Which of the three it is hangs on the reader's state; how deep it then is does not. Nesting can be
counted in the tokens alone (`Token.levelAfter`, `Token.Placed.opens?`): a parenthesis or a brace
opens one more level or closes one, an object literal begins at its brace, and a call begins at its
name, the token before the parenthesis. `State.At` says that a state agrees with this count, and
every step keeps it.

So an error of a run is of one of three forms, each with its place: the end of the tokens, a
refused token, or the place where that begins which is nested too deep (`State.run_error_form`).
-/

namespace InputDocs

set_option autoImplicit false

/-! ## Nesting, counted in the tokens -/

/-- How many calls and object literals are open after the token. -/
def Token.levelAfter (level : Nat) : Token → Nat
  | .openParen | .openBrace => level + 1
  | .closeParen | .closeBrace => level - 1
  | _ => level

/-- Where that begins which the token opens, if it opens anything; `last` is the place of the
token before. -/
def Token.Placed.opens? (last : Option Position) : Token.Placed → Option Position
  | ⟨.openBrace, place⟩ => some place
  | ⟨.openParen, place⟩ => some (last.getD place)
  | _ => none

/-- What a token opens begins at the token or at the one before. -/
theorem Token.Placed.opens?_place {last : Option Position} {token : Token.Placed} {place : Position}
    (begins : token.opens? last = some place) : last = some place ∨ place = token.position := by
  obtain ⟨token, position⟩ := token
  cases token with
  | openBrace => exact Or.inr (Option.some.inj begins).symm
  | openParen =>
      cases last with
      | none => exact Or.inr (Option.some.inj begins).symm
      | some before => exact Or.inl begins
  | _ => cases begins

namespace TypeExpr

/-! ## Nesting, counted in the state -/

/-- How many calls and object literals are open. -/
def Settled.level : Settled → Nat
  | .finished _ => 0
  | .argument _ _ stack | .between _ stack => stack.length + 1

/-- How many calls and object literals are open. -/
def State.level : State → Nat
  | .settled after => after.level
  | .value stack | .word _ _ stack => stack.length
  | .firstArgument _ stack | .commentLines _ _ stack | .key _ _ stack | .equals _ _ _ stack =>
    stack.length + 1

/-- The place of the word that may turn out to be the name of a call. -/
def State.pending? : State → Option Position
  | .word _ position _ => some position
  | _ => none

/-- The state agrees with what is counted in the tokens before it. -/
structure State.At (level : Nat) (last : Option Position) (state : State) : Prop where
  level : state.level = level
  pending : ∀ place ∈ state.pending?, last = some place

theorem State.at_own (state : State) : state.At state.level state.pending? :=
  ⟨rfl, fun _ waits => waits⟩

theorem State.at_start : (State.value []).At 0 none := ⟨rfl, nofun⟩

theorem settle_level (root : TypeExpr) (stack : List Frame) :
    (settle root stack).level = stack.length := by
  cases stack with
  | nil => rfl
  | cons frame below => cases frame <;> rfl

/-! ## One step -/

/-- What a step on `token` does under each limit, after tokens with `level` open calls and object
literals and the last of them at `last`. -/
inductive StepForm (level : Nat) (last : Option Position) (token : Token.Placed)
    (step : Nat → Except ParseError State) : Prop
  /-- The reader goes on in one state. -/
  | goes {next : State} (same : ∀ limit, step limit = .ok next) (plain : token.opens? last = none)
      (here : next.At (token.token.levelAfter level) (some token.position))
  /-- A call or an object literal opens, if the limit allows one more. -/
  | opens {place : Position} {next : State}
      (same : ∀ limit, step limit =
        if level < limit then .ok next else .error (.tooDeep place limit))
      (begins : token.opens? last = some place)
      (deeper : token.token.levelAfter level = level + 1)
      (here : ∀ before, next.At (level + 1) before)
  /-- The token is refused. -/
  | refuses {expected : Expected}
      (same : ∀ limit,
        step limit = .error (.unexpected token.position expected (some token.token)))

variable {limit level : Nat} {last : Option Position} {token : Token.Placed}

theorem beginValue_form {stack : List Frame} (height : stack.length = level) :
    StepForm level last token fun limit => beginValue limit stack token := by
  subst height
  obtain ⟨token, position⟩ := token
  cases token with
  | word name => exact .goes (fun _ => rfl) rfl ⟨rfl, fun _ same => same⟩
  | openBrace => exact .opens (fun _ => rfl) rfl rfl fun _ => ⟨rfl, nofun⟩
  | number text | quoted text =>
      exact .goes (fun _ => rfl) rfl ⟨settle_level _ stack, nofun⟩
  | _ => exact .refuses fun _ => rfl

theorem Settled.step_form {after : Settled} (height : after.level = level) :
    StepForm level last token fun _ => after.step token := by
  subst height
  obtain ⟨token, position⟩ := token
  cases after with
  | finished root => exact .refuses fun _ => rfl
  | argument name arguments stack =>
      cases token with
      | comma => exact .goes (fun _ => rfl) rfl ⟨rfl, nofun⟩
      | closeParen => exact .goes (fun _ => rfl) rfl ⟨settle_level _ stack, nofun⟩
      | _ => exact .refuses fun _ => rfl
  | between properties stack =>
      cases token with
      | closeBrace => exact .goes (fun _ => rfl) rfl ⟨settle_level _ stack, nofun⟩
      | docBlock _ | docLine _ | word _ =>
          exact .goes (fun _ => rfl) rfl ⟨rfl, nofun⟩
      | _ => exact .refuses fun _ => rfl

/-- **What a step can do.** -/
theorem State.step_form {state : State} (here : state.At level last) (token : Token.Placed) :
    StepForm level last token fun limit => state.step limit token := by
  obtain ⟨height, pending⟩ := here
  cases state with
  | settled after => exact Settled.step_form height
  | value stack => exact beginValue_form height
  | word name begins stack =>
      by_cases opening : token.token = .openParen
      · obtain ⟨_, position⟩ := token
        cases opening
        obtain rfl := pending begins rfl
        subst height
        exact .opens (fun _ => rfl) rfl rfl fun _ => ⟨rfl, nofun⟩
      · simp only [State.word_step opening]
        exact Settled.step_form ((settle_level _ stack).trans height)
  | firstArgument name stack =>
      by_cases closing : token.token = .closeParen
      · obtain ⟨_, position⟩ := token
        cases closing
        subst height
        exact .goes (fun _ => rfl) rfl ⟨settle_level _ stack, nofun⟩
      · simp only [State.firstArgument_step closing]
        exact beginValue_form height
  | commentLines lines properties stack =>
      subst height
      obtain ⟨token, position⟩ := token
      cases token with
      | docLine _ | word _ => exact .goes (fun _ => rfl) rfl ⟨rfl, nofun⟩
      | _ => exact .refuses fun _ => rfl
  | key comment properties stack =>
      subst height
      obtain ⟨token, position⟩ := token
      cases token with
      | word _ => exact .goes (fun _ => rfl) rfl ⟨rfl, nofun⟩
      | _ => exact .refuses fun _ => rfl
  | equals comment name properties stack =>
      subst height
      obtain ⟨token, position⟩ := token
      cases token with
      | equals => exact .goes (fun _ => rfl) rfl ⟨rfl, nofun⟩
      | _ => exact .refuses fun _ => rfl

/-! ## Errors of a run -/

theorem State.finish_error {state : State} {place : Position} {error : ParseError}
    (failed : state.finish place = .error error) :
    ∃ expected, error = .unexpected place expected none := by
  have settled : ∀ {after : Settled}, after.finish place = .error error →
      ∃ expected, error = .unexpected place expected none := by
    intro after failed
    cases after <;> cases failed <;> exact ⟨_, rfl⟩
  cases state with
  | settled after => exact settled failed
  | word name position stack => exact settled failed
  | _ =>
      cases failed
      exact ⟨_, rfl⟩

/-- The errors of a run over `tokens` up to `place`: about the end of the tokens, about a token, or
about what begins at a token, or at the one before them all, and is nested too deep. -/
inductive ErrorForm (limit : Nat) (place : Position) (last : Option Position)
    (tokens : List Token.Placed) : ParseError → Prop
  | ends (expected : Expected) : ErrorForm limit place last tokens (.unexpected place expected none)
  | refused {token : Token.Placed} (among : token ∈ tokens) (expected : Expected) :
      ErrorForm limit place last tokens
        (.unexpected token.position expected (some token.token))
  | tooDeep {position : Position}
      (stands : last = some position ∨ ∃ token ∈ tokens, position = token.position) :
      ErrorForm limit place last tokens (.tooDeep position limit)

variable {place : Position} {tokens : List Token.Placed} {error : ParseError}

theorem ErrorForm.cons (form : ErrorForm limit place (some token.position) tokens error) :
    ErrorForm limit place last (token :: tokens) error := by
  cases form with
  | ends expected => exact .ends expected
  | refused among expected => exact .refused (List.mem_cons_of_mem token among) expected
  | tooDeep stands =>
      refine .tooDeep (Or.inr ?_)
      rcases stands with own | ⟨other, among, same⟩
      · exact ⟨token, List.mem_cons_self, (Option.some.inj own).symm⟩
      · exact ⟨other, List.mem_cons_of_mem token among, same⟩

/-- Such an error stands at the end of the tokens, at one of them or at the one before. -/
theorem ErrorForm.position_of {P : Position → Prop} (form : ErrorForm limit place last tokens error)
    (before : ∀ position ∈ last, P position) (each : ∀ token ∈ tokens, P token.position)
    (ends : P place) : P error.position := by
  cases form with
  | ends expected => exact ends
  | refused among expected => exact each _ among
  | tooDeep stands =>
      rcases stands with own | ⟨token, among, rfl⟩
      · exact before _ own
      · exact each token among

/-- An error of a run has one of the forms. -/
theorem State.run_error_form {state : State} (here : state.At level last)
    (failed : state.run limit place tokens = .error error) :
    ErrorForm limit place last tokens error := by
  induction tokens generalizing state level last with
  | nil =>
      obtain ⟨expected, rfl⟩ := State.finish_error failed
      exact .ends expected
  | cons token rest ih =>
      have further : ∀ {next : State} {deep : Nat}, next.At deep (some token.position) →
          state.step limit token = .ok next → ErrorForm limit place last (token :: rest) error := by
        intro next deep on stepped
        rw [State.run_cons_of_step place rest stepped] at failed
        exact (ih on failed).cons
      cases State.step_form here token with
      | goes same plain on => exact further on (same limit)
      | opens same begins deeper on =>
          by_cases room : level < limit
          · exact further (on _) ((same limit).trans (if_pos room))
          · rw [State.run_cons, same, if_neg room] at failed
            cases failed
            refine .tooDeep ((Token.Placed.opens?_place begins).imp_right ?_)
            exact fun own => ⟨token, List.mem_cons_self, own⟩
      | refuses same =>
          rw [State.run_cons, same] at failed
          cases failed
          exact .refused List.mem_cons_self _

end TypeExpr

end InputDocs

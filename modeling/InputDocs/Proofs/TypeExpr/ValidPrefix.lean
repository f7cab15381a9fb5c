import InputDocs.Proofs.TypeExpr.Grammar
import InputDocs.Proofs.TypeExpr.Nesting

/-!
# Proofs.TypeExpr.ValidPrefix -- errors stand at the first token that fits no expression

A syntax error is neither early nor late. Not early: every state of the reader can still be led to
the end, by a number where a value is owed and then by what closes each open call and object
literal (`State.completion`, `State.run_completion`). Nothing is opened on the way, so this needs
no more depth than was used. Not late: a refused token is refused under any limit
(`State.step_unexpected`), so a continuation of the tokens up to and with it is accepted under none
(`Leads.run_ne_ok`).

A run that ends in a syntax error splits at the place of the error (`State.run_error`): at a
token that a step refuses, which the error then names with its place, or at the end of the tokens.
`unexpected_at_first_misfit` is the statement about both.
-/

namespace InputDocs.TypeExpr

set_option autoImplicit false

variable {limit : Nat} {place : Position}

/-- The tokens are an expression within the depth asked for. -/
def Accepted (maxDepth : Nat) (tokens : List Token.Placed) : Prop :=
  ∃ place expr, ofTokens maxDepth place tokens = .ok expr

/-- The tokens begin an expression within the depth asked for. -/
def Viable (maxDepth : Nat) (tokens : List Token.Placed) : Prop :=
  ∃ more, Accepted maxDepth (tokens ++ more)

/-- Where the text ends matters to errors only. -/
theorem accepted_iff (maxDepth : Nat) (place : Position) (tokens : List Token.Placed) :
    Accepted maxDepth tokens ↔ ∃ expr, ofTokens maxDepth place tokens = .ok expr := by
  constructor
  · rintro ⟨elsewhere, expr, answered⟩
    exact ⟨expr, run_eq_ok_iff.2 (run_eq_ok_iff.1 answered)⟩
  · rintro ⟨expr, answered⟩
    exact ⟨place, expr, answered⟩

/-! ## Runs in two parts -/

/-- The steps over some tokens lead from one state to another. -/
inductive Leads (limit : Nat) : State → List Token.Placed → State → Prop where
  | refl (state : State) : Leads limit state [] state
  | step {state next last : State} {token : Token.Placed} {rest : List Token.Placed}
      (first : state.step limit token = .ok next) (others : Leads limit next rest last) :
      Leads limit state (token :: rest) last

theorem Leads.run_append {state last : State} {read : List Token.Placed}
    (leads : Leads limit state read last) (rest : List Token.Placed) :
    state.run limit place (read ++ rest) = last.run limit place rest := by
  induction leads with
  | refl state => rfl
  | step first others ih =>
      rw [List.cons_append, State.run_cons_of_step place _ first]
      exact ih

/-- A run fails at a token that a step refuses, or at the end of the tokens. -/
theorem State.run_error {state : State} {tokens : List Token.Placed} {error : ParseError}
    (failed : state.run limit place tokens = .error error) :
    (∃ read token rest middle, tokens = read ++ token :: rest ∧ Leads limit state read middle ∧
      middle.step limit token = .error error) ∨
    ∃ last, Leads limit state tokens last ∧ last.finish place = .error error := by
  induction tokens generalizing state with
  | nil => exact Or.inr ⟨state, .refl state, failed⟩
  | cons token rest ih =>
      cases stepped : state.step limit token with
      | error refusal =>
          rw [State.run_cons, stepped] at failed
          cases failed
          exact Or.inl ⟨[], token, rest, state, rfl, .refl state, stepped⟩
      | ok next =>
          rw [State.run_cons_of_step place rest stepped] at failed
          rcases ih failed with ⟨read, refused, others, middle, rfl, leads, stops⟩ | ⟨last, leads, ends⟩
          · exact Or.inl ⟨token :: read, refused, others, middle, rfl, .step stepped leads, stops⟩
          · exact Or.inr ⟨last, .step stepped leads, ends⟩

/-! ## Refusals -/

/-- Two limits that both let a step go on let it go on to the same state. -/
theorem State.step_unique {state next other : State} {token : Token.Placed} {elsewhere : Nat}
    (goes : state.step limit token = .ok next) (alsoGoes : state.step elsewhere token = .ok other) :
    next = other := by
  cases State.step_form state.at_own token with
  | goes same plain here =>
      rw [same] at goes alsoGoes
      exact Except.ok.inj (goes.symm.trans alsoGoes)
  | opens same begins deeper here =>
      rw [same] at goes alsoGoes
      split at goes <;> split at alsoGoes <;> cases goes <;> cases alsoGoes
      rfl
  | refuses same =>
      rw [same] at goes
      cases goes

/-- A syntax error in a step names the token, and no other limit lets the step go on. -/
theorem State.step_unexpected {state : State} {token : Token.Placed} {position : Position}
    {expected : Expected} {found : Option Token}
    (refused : state.step limit token = .error (.unexpected position expected found)) :
    position = token.position ∧ found = some token.token ∧
      ∀ elsewhere next, state.step elsewhere token ≠ .ok next := by
  cases State.step_form state.at_own token with
  | goes same plain here =>
      rw [same] at refused
      cases refused
  | opens same begins deeper here =>
      rw [same] at refused
      split at refused <;> cases refused
  | refuses same =>
      rw [same] at refused
      cases refused
      refine ⟨rfl, rfl, fun elsewhere next goes => ?_⟩
      rw [same] at goes
      cases goes

/-- Tokens read under some limit lead nowhere else under another: what cannot go on from there
cannot go on from the start. -/
theorem Leads.run_ne_ok {state middle : State} {read rest : List Token.Placed} {elsewhere : Nat}
    (leads : Leads limit state read middle)
    (never : ∀ expr, middle.run elsewhere place rest ≠ .ok expr) (expr : TypeExpr) :
    state.run elsewhere place (read ++ rest) ≠ .ok expr := by
  induction leads with
  | refl state => exact never expr
  | @step state next last first others goes _ ih =>
      intro answered
      cases stepped : state.step elsewhere first with
      | ok other =>
          have same := State.step_unique goes stepped
          rw [List.cons_append, State.run_cons_of_step place _ stepped, ← same] at answered
          exact ih never answered
      | error refusal =>
          rw [List.cons_append, State.run_cons, stepped] at answered
          cases answered

theorem State.run_refused {state : State} {token : Token.Placed} {elsewhere : Nat}
    (refused : ∀ next, state.step elsewhere token ≠ .ok next) (more : List Token.Placed)
    (expr : TypeExpr) : state.run elsewhere place (token :: more) ≠ .ok expr := by
  intro answered
  cases stepped : state.step elsewhere token with
  | ok next => exact refused next stepped
  | error refusal =>
      rw [State.run_cons, stepped] at answered
      cases answered

/-! ## Completions -/

/-- The token that closes an open call or object literal. -/
def Frame.closing : Frame → Token
  | .call _ _ => .closeParen
  | .property _ _ _ => .closeBrace

/-- Tokens that complete an expression after another has been completed inside it. -/
def Settled.completion : Settled → List Token
  | .finished _ => []
  | .argument _ _ stack => .closeParen :: stack.map Frame.closing
  | .between _ stack => .closeBrace :: stack.map Frame.closing

/-- Tokens that complete an expression from any state. -/
def State.completion : State → List Token
  | .settled after => after.completion
  | .value stack => .number "0" :: stack.map Frame.closing
  | .word _ _ stack => stack.map Frame.closing
  | .firstArgument _ stack => .closeParen :: stack.map Frame.closing
  | .commentLines _ _ stack | .key _ _ stack =>
    .word "key" :: .equals :: .number "0" :: .closeBrace :: stack.map Frame.closing
  | .equals _ _ _ stack => .equals :: .number "0" :: .closeBrace :: stack.map Frame.closing

/-- Tokens at one place. -/
def placed (place : Position) (tokens : List Token) : List Token.Placed :=
  tokens.map fun token => ⟨token, place⟩

theorem run_closing (limit : Nat) (place : Position) (root : TypeExpr) (stack : List Frame) :
    ∃ expr, (State.settled (settle root stack)).run limit place
      (placed place (stack.map Frame.closing)) = .ok expr := by
  induction stack generalizing root with
  | nil => exact ⟨root, rfl⟩
  | cons frame below ih =>
      cases frame with
      | call name arguments => exact ih (.call name (root :: arguments).reverse)
      | property properties comment key =>
          exact ih (.object (⟨comment, key, root⟩ :: properties).reverse)

/-- The completion of a state leads to an expression. -/
theorem State.run_completion (limit : Nat) (place : Position) (state : State) :
    ∃ expr, state.run limit place (placed place state.completion) = .ok expr := by
  cases state with
  | settled after =>
      cases after with
      | finished root => exact ⟨root, rfl⟩
      | argument name arguments stack =>
          exact run_closing limit place (.call name arguments.reverse) stack
      | between properties stack => exact run_closing limit place (.object properties.reverse) stack
  | value stack => exact run_closing limit place (.number "0") stack
  | word name position stack =>
      have follow : NoOpening (placed place (stack.map Frame.closing)) := by
        cases stack with
        | nil => simp [NoOpening, placed]
        | cons frame below => cases frame <;> simp [NoOpening, placed, Frame.closing]
      rw [State.completion, State.run_word follow]
      exact run_closing limit place (.word name) stack
  | firstArgument name stack => exact run_closing limit place (.call name []) stack
  | commentLines lines properties stack =>
      exact run_closing limit place (.object
        (⟨some (.lines lines.reverse), "key", .number "0"⟩ :: properties).reverse) stack
  | key comment properties stack =>
      exact run_closing limit place (.object
        (⟨some comment, "key", .number "0"⟩ :: properties).reverse) stack
  | equals comment name properties stack =>
      exact run_closing limit place (.object
        (⟨comment, name, .number "0"⟩ :: properties).reverse) stack

/-- Tokens that lead somewhere from the start begin an expression, within the same depth. -/
theorem Leads.accepted {maxDepth : Nat} {read : List Token.Placed} {last : State}
    (leads : Leads (min maxDepth greatestDepth) (.value []) read last) (place : Position) :
    Accepted maxDepth (read ++ placed place last.completion) := by
  obtain ⟨expr, answered⟩ := last.run_completion (min maxDepth greatestDepth) place
  refine ⟨place, expr, ?_⟩
  rw [ofTokens, leads.run_append]
  exact answered

/-! ## The valid prefix -/

/-- **Syntax errors are reported at the first token that is part of no expression.** If the error
names a token, the tokens before it begin an expression within the same depth, and with it they
begin none within any depth. If it names none, it is at the end of the text, where all the tokens
are no expression yet, within any depth, but more of them are one within the same depth. -/
theorem unexpected_at_first_misfit {maxDepth : Nat} {place position : Position}
    {tokens : List Token.Placed} {expected : Expected} {found : Option Token}
    (failed : ofTokens maxDepth place tokens = .error (.unexpected position expected found)) :
    (∀ token, found = some token → ∃ k, tokens[k]? = some ⟨token, position⟩ ∧
      Viable maxDepth (tokens.take k) ∧ ∀ depth, ¬ Viable depth (tokens.take (k + 1))) ∧
    (found = none → position = place ∧ (∀ depth, ¬ Accepted depth tokens) ∧
      ∃ more, more ≠ [] ∧ Accepted maxDepth (tokens ++ more)) := by
  rcases State.run_error failed with
    ⟨read, refused, rest, middle, rfl, leads, stops⟩ | ⟨last, leads, ends⟩
  · obtain ⟨rfl, rfl, never⟩ := State.step_unexpected stops
    refine ⟨?_, fun named => by cases named⟩
    rintro token ⟨⟩
    refine ⟨read.length, by simp, ?_, ?_⟩
    · rw [List.take_left]
      exact ⟨_, leads.accepted place⟩
    · rintro depth ⟨more, elsewhere, expr, answered⟩
      have front : (read ++ refused :: rest).take (read.length + 1) = read ++ [refused] := by
        rw [List.take_length_add_append, List.take_succ_cons, List.take_zero]
      rw [front, List.append_assoc, List.singleton_append] at answered
      exact leads.run_ne_ok (State.run_refused (never _) more) expr answered
  · obtain ⟨owed, same⟩ := State.finish_error ends
    cases same
    refine ⟨fun token named => (by cases named), fun _ => ⟨rfl, ?_, ?_⟩⟩
    · intro depth accepted
      obtain ⟨expr, answered⟩ := (accepted_iff depth place tokens).1 accepted
      have incomplete : ∀ expr, last.run (min depth greatestDepth) place [] ≠ .ok expr := by
        intro expr finished
        rw [State.run_nil, ends] at finished
        cases finished
      have never := leads.run_ne_ok incomplete expr
      rw [List.append_nil] at never
      exact never answered
    · refine ⟨placed place last.completion, fun empty => ?_, leads.accepted place⟩
      obtain ⟨expr, answered⟩ := last.run_completion (min maxDepth greatestDepth) place
      rw [empty, State.run_nil, ends] at answered
      cases answered

/-- The tokens of `{ a = f(b c`, a call that goes on without a comma. -/
def missingComma : List Token.Placed :=
  [⟨.openBrace, ⟨0, 1, 1⟩⟩, ⟨.word "a", ⟨2, 1, 3⟩⟩, ⟨.equals, ⟨4, 1, 5⟩⟩, ⟨.word "f", ⟨6, 1, 7⟩⟩,
    ⟨.openParen, ⟨7, 1, 8⟩⟩, ⟨.word "b", ⟨8, 1, 9⟩⟩, ⟨.word "c", ⟨10, 1, 11⟩⟩]

theorem missingComma_first_misfit :
    ofTokens 2 ⟨11, 1, 12⟩ missingComma =
      .error (.unexpected ⟨10, 1, 11⟩ .commaOrClose (some (.word "c"))) ∧
    ∃ k, missingComma[k]? = some ⟨.word "c", ⟨10, 1, 11⟩⟩ ∧ Viable 2 (missingComma.take k) ∧
      ∀ depth, ¬ Viable depth (missingComma.take (k + 1)) := by
  have failed : ofTokens 2 ⟨11, 1, 12⟩ missingComma =
      .error (.unexpected ⟨10, 1, 11⟩ .commaOrClose (some (.word "c"))) := rfl
  exact ⟨failed, (unexpected_at_first_misfit failed).1 (.word "c") rfl⟩

end InputDocs.TypeExpr

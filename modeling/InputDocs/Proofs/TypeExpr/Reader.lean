import InputDocs.Proofs.TypeExpr.Structure
import InputDocs.TypeExpr.Parse

/-!
# Proofs.TypeExpr.Reader -- what the reader knows of the tokens behind it

The state of the reader is an account of everything it has read. `State.tokens` writes the tokens
back from the state: those of the open calls and object literals from the outside in, then those
of the part in hand. `State.Fits` says that what has been read could be part of an expression
within the limit: an open call, closed now, would fit where it stands, and likewise an open object
literal.

One step keeps both. It adds its token to the account (`State.step_tokens`) and stays within the
limit (`State.step_fits`), and at the end of the tokens a finished expression has exactly the
tokens of the state (`State.finish_ok`). So whatever a run answers is an expression written by the
tokens it was given (`State.run_ok`).
-/

namespace InputDocs.TypeExpr

set_option autoImplicit false

/-! ## Tokens of lists that grow at their end -/

/-- The tokens of arguments with a comma after each. -/
def listedTokens (arguments : List TypeExpr) : List Token :=
  arguments.flatMap fun argument => argument.tokens ++ [.comma]

theorem argumentTokens_cons (first : TypeExpr) {rest : List TypeExpr} (more : rest ≠ []) :
    argumentTokens (first :: rest) = first.tokens ++ .comma :: argumentTokens rest := by
  cases rest with
  | nil => exact absurd rfl more
  | cons second others => rw [argumentTokens]; exact List.cons_ne_nil second others

theorem argumentTokens_append_single (before : List TypeExpr) (last : TypeExpr) :
    argumentTokens (before ++ [last]) = listedTokens before ++ last.tokens := by
  induction before with
  | nil => simp [argumentTokens, listedTokens]
  | cons first rest ih =>
      have more : rest ++ [last] ≠ [] := by simp
      rw [List.cons_append, argumentTokens_cons first more, ih]
      simp [listedTokens]

theorem propertyTokens_append_single (before : List (Property TypeExpr))
    (last : Property TypeExpr) :
    propertyTokens (before ++ [last]) = propertyTokens before ++
      ((last.comment.map Comment.tokens).getD [] ++ .word last.key :: .equals ::
        last.value.tokens) := by
  induction before with
  | nil => simp [propertyTokens]
  | cons first rest ih => simp [propertyTokens, ih]

/-! ## The tokens of a state -/

/-- The tokens of an open call or object literal, up to the value it waits for. -/
def Frame.tokens : Frame → List Token
  | .call name arguments => .word name :: .openParen :: listedTokens arguments.reverse
  | .property properties comment key =>
    .openBrace :: (propertyTokens properties.reverse ++ (comment.map Comment.tokens).getD [] ++
      [.word key, .equals])

/-- The tokens of open calls and object literals, given from the inside out. -/
def stackTokens : List Frame → List Token
  | [] => []
  | frame :: below => stackTokens below ++ frame.tokens

/-- The tokens read in a state in which an expression has just been completed. -/
def Settled.tokens : Settled → List Token
  | .finished root => root.tokens
  | .argument name arguments stack =>
    stackTokens stack ++ .word name :: .openParen :: argumentTokens arguments.reverse
  | .between properties stack => stackTokens stack ++ .openBrace :: propertyTokens properties.reverse

/-- The tokens read in a state. -/
def State.tokens : State → List Token
  | .settled after => after.tokens
  | .value stack => stackTokens stack
  | .word name _ stack => stackTokens stack ++ [.word name]
  | .firstArgument name stack => stackTokens stack ++ [.word name, .openParen]
  | .commentLines lines properties stack =>
    (Settled.between properties stack).tokens ++ lines.reverse.map .docLine
  | .key comment properties stack => (Settled.between properties stack).tokens ++ comment.tokens
  | .equals comment name properties stack =>
    (Settled.between properties stack).tokens ++ (comment.map Comment.tokens).getD [] ++
      [.word name]

/-! ## States within the limit -/

/-- What has been read of an open call or object literal fits. -/
def Frame.Fits (room : Nat) : Frame → Prop
  | .call name arguments => (TypeExpr.call name arguments.reverse).Fits room
  | .property properties comment _ =>
    (TypeExpr.object properties.reverse).Fits room ∧ comment ≠ some (.lines [])

/-- Open calls and object literals, each fitting in what those around it leave of the limit. -/
def StackFits (limit : Nat) : List Frame → Prop
  | [] => True
  | frame :: below => frame.Fits (limit - below.length) ∧ StackFits limit below

/-- A state after a complete expression in which everything read fits. -/
def Settled.Fits (limit : Nat) : Settled → Prop
  | .finished root => root.Fits limit
  | .argument name arguments stack =>
    arguments ≠ [] ∧ (call name arguments.reverse).Fits (limit - stack.length) ∧
      StackFits limit stack
  | .between properties stack =>
    (object properties.reverse).Fits (limit - stack.length) ∧ StackFits limit stack

/-- A state in which everything read fits. -/
def State.Fits (limit : Nat) : State → Prop
  | .settled after => after.Fits limit
  | .value stack | .word _ _ stack => StackFits limit stack
  | .firstArgument name stack =>
    (call name []).Fits (limit - stack.length) ∧ StackFits limit stack
  | .commentLines lines properties stack =>
    lines ≠ [] ∧ (Settled.between properties stack).Fits limit
  | .key comment properties stack =>
    comment ≠ .lines [] ∧ (Settled.between properties stack).Fits limit
  | .equals comment _ properties stack =>
    comment ≠ some (.lines []) ∧ (Settled.between properties stack).Fits limit

/-! ## Completing an expression -/

theorem settle_tokens (root : TypeExpr) (stack : List Frame) :
    (settle root stack).tokens = stackTokens stack ++ root.tokens := by
  cases stack with
  | nil => rfl
  | cons frame below =>
      cases frame with
      | call name arguments =>
          simp only [settle, Settled.tokens, stackTokens, Frame.tokens, List.reverse_cons,
            argumentTokens_append_single]
          simp
      | property properties comment key =>
          simp only [settle, Settled.tokens, stackTokens, Frame.tokens, List.reverse_cons,
            propertyTokens_append_single]
          simp

theorem settle_fits {limit : Nat} {root : TypeExpr} {stack : List Frame}
    (fits : root.Fits (limit - stack.length)) (around : StackFits limit stack) :
    (settle root stack).Fits limit := by
  cases stack with
  | nil => exact fits
  | cons frame below =>
      obtain ⟨frameFits, belowFits⟩ := around
      cases frame with
      | call name arguments =>
          obtain ⟨opens, others⟩ := fits_call.1 frameFits
          refine ⟨List.cons_ne_nil root arguments, fits_call.2 ⟨opens, ?_⟩, belowFits⟩
          intro argument member
          rcases List.mem_cons.1 (List.mem_reverse.1 member) with rfl | earlier
          · exact fits
          · exact others argument (List.mem_reverse.2 earlier)
      | property properties comment key =>
          obtain ⟨literalFits, comment_ne⟩ := frameFits
          obtain ⟨opens, others⟩ := fits_object.1 literalFits
          refine ⟨fits_object.2 ⟨opens, ?_⟩, belowFits⟩
          intro property member
          rcases List.mem_cons.1 (List.mem_reverse.1 member) with rfl | earlier
          · exact ⟨comment_ne, fits⟩
          · exact others property (List.mem_reverse.2 earlier)

/-! ## One token -/

theorem enter_ok {limit : Nat} {stack : List Frame} {position : Position} {opened next : State}
    (h : enter limit stack position opened = .ok next) : stack.length < limit ∧ next = opened := by
  unfold enter at h
  split at h
  · rename_i opens
    cases h
    exact ⟨opens, rfl⟩
  · cases h

/-- A word is a leaf unless a parenthesis opens after it. -/
theorem State.word_step {token : Token.Placed} (leaf : token.token ≠ .openParen) (limit : Nat)
    (name : String) (position : Position) (stack : List Frame) :
    (State.word name position stack).step limit token = (settle (.word name) stack).step token := by
  obtain ⟨token, place⟩ := token
  cases token with
  | openParen => exact absurd rfl leaf
  | _ => rfl

/-- The first argument of a call begins as any other does, unless the call ends there. -/
theorem State.firstArgument_step {token : Token.Placed} (more : token.token ≠ .closeParen)
    (limit : Nat) (name : String) (stack : List Frame) :
    (State.firstArgument name stack).step limit token =
      (State.value (.call name [] :: stack)).step limit token := by
  obtain ⟨token, place⟩ := token
  cases token with
  | closeParen => exact absurd rfl more
  | _ => rfl

theorem beginValue_tokens {limit : Nat} {stack : List Frame} {token : Token.Placed} {next : State}
    (h : beginValue limit stack token = .ok next) :
    next.tokens = stackTokens stack ++ [token.token] := by
  obtain ⟨token, position⟩ := token
  cases token with
  | word name =>
      cases h
      rfl
  | openBrace =>
      obtain ⟨-, rfl⟩ := enter_ok h
      rfl
  | number text | quoted text =>
      cases h
      rw [State.tokens, settle_tokens, TypeExpr.tokens]
  | _ => cases h

theorem beginValue_fits {limit : Nat} {stack : List Frame} {token : Token.Placed} {next : State}
    (around : StackFits limit stack) (h : beginValue limit stack token = .ok next) :
    next.Fits limit := by
  obtain ⟨token, position⟩ := token
  cases token with
  | word name =>
      cases h
      exact around
  | openBrace =>
      obtain ⟨opens, rfl⟩ := enter_ok h
      refine ⟨fits_object.2 ⟨Nat.sub_pos_of_lt opens, fun property member => ?_⟩, around⟩
      cases member
  | number text =>
      cases h
      exact settle_fits (fits_number _ text) around
  | quoted text =>
      cases h
      exact settle_fits (fits_quoted _ text) around
  | _ => cases h

theorem Settled.step_tokens {after : Settled} {limit : Nat} {token : Token.Placed} {next : State}
    (fits : after.Fits limit) (h : after.step token = .ok next) :
    next.tokens = after.tokens ++ [token.token] := by
  obtain ⟨token, position⟩ := token
  cases after with
  | finished root => cases h
  | argument name arguments stack =>
      cases token with
      | comma =>
          cases h
          cases arguments with
          | nil => exact absurd rfl fits.1
          | cons last before =>
              simp only [State.tokens, stackTokens, Frame.tokens, Settled.tokens,
                List.reverse_cons, argumentTokens_append_single]
              simp [listedTokens]
      | closeParen =>
          cases h
          rw [State.tokens, settle_tokens, TypeExpr.tokens, Settled.tokens]
          simp
      | _ => cases h
  | between properties stack =>
      cases token with
      | closeBrace =>
          cases h
          rw [State.tokens, settle_tokens, TypeExpr.tokens, Settled.tokens]
          simp
      | docBlock text | docLine text =>
          cases h
          rfl
      | word name =>
          cases h
          rw [State.tokens, Option.map_none, Option.getD_none, List.append_nil]
      | _ => cases h

theorem Settled.step_fits {after : Settled} {limit : Nat} {token : Token.Placed} {next : State}
    (fits : after.Fits limit) (h : after.step token = .ok next) : next.Fits limit := by
  obtain ⟨token, position⟩ := token
  cases after with
  | finished root => cases h
  | argument name arguments stack =>
      cases token with
      | comma =>
          cases h
          exact fits.2
      | closeParen =>
          cases h
          exact settle_fits fits.2.1 fits.2.2
      | _ => cases h
  | between properties stack =>
      cases token with
      | closeBrace =>
          cases h
          exact settle_fits fits.1 fits.2
      | docBlock text =>
          cases h
          exact ⟨by simp, fits⟩
      | docLine text =>
          cases h
          exact ⟨List.cons_ne_nil text [], fits⟩
      | word name =>
          cases h
          exact ⟨by simp, fits⟩
      | _ => cases h

/-- A step adds its token to what the state has read. -/
theorem State.step_tokens {state : State} {limit : Nat} {token : Token.Placed} {next : State}
    (fits : state.Fits limit) (h : state.step limit token = .ok next) :
    next.tokens = state.tokens ++ [token.token] := by
  obtain ⟨token, position⟩ := token
  cases state with
  | settled after => exact Settled.step_tokens fits h
  | value stack => exact beginValue_tokens h
  | word name begins stack =>
      by_cases opens : token = .openParen
      · subst opens
        obtain ⟨-, rfl⟩ := enter_ok h
        simp [State.tokens]
      · -- The word is complete, and its token is already in the account.
        rw [State.word_step opens] at h
        have settled := Settled.step_tokens (settle_fits (fits_word _ name) fits) h
        rw [settle_tokens, TypeExpr.tokens] at settled
        exact settled
  | firstArgument name stack =>
      by_cases closes : token = .closeParen
      · subst closes
        cases h
        rw [State.tokens, settle_tokens, TypeExpr.tokens, State.tokens]
        simp [argumentTokens]
      · rw [State.firstArgument_step closes] at h
        have begun := beginValue_tokens h
        simpa [State.tokens, stackTokens, Frame.tokens, listedTokens] using begun
  | commentLines lines properties stack =>
      cases token with
      | docLine text =>
          cases h
          simp [State.tokens]
      | word name =>
          cases h
          simp [State.tokens, Comment.tokens]
      | _ => cases h
  | key comment properties stack =>
      cases token with
      | word name =>
          cases h
          simp [State.tokens]
      | _ => cases h
  | equals comment name properties stack =>
      cases token with
      | equals =>
          cases h
          simp [State.tokens, stackTokens, Frame.tokens, Settled.tokens]
      | _ => cases h

/-- A step stays within the limit. -/
theorem State.step_fits {state : State} {limit : Nat} {token : Token.Placed} {next : State}
    (fits : state.Fits limit) (h : state.step limit token = .ok next) : next.Fits limit := by
  obtain ⟨token, position⟩ := token
  cases state with
  | settled after => exact Settled.step_fits fits h
  | value stack => exact beginValue_fits fits h
  | word name begins stack =>
      by_cases opens : token = .openParen
      · subst opens
        obtain ⟨room, rfl⟩ := enter_ok h
        refine ⟨fits_call.2 ⟨Nat.sub_pos_of_lt room, fun argument member => ?_⟩, fits⟩
        cases member
      · rw [State.word_step opens] at h
        exact Settled.step_fits (settle_fits (fits_word _ name) fits) h
  | firstArgument name stack =>
      by_cases closes : token = .closeParen
      · subst closes
        cases h
        exact settle_fits fits.1 fits.2
      · rw [State.firstArgument_step closes] at h
        have around : StackFits limit (.call name [] :: stack) := fits
        exact beginValue_fits around h
  | commentLines lines properties stack =>
      cases token with
      | docLine text =>
          cases h
          exact ⟨List.cons_ne_nil text lines, fits.2⟩
      | word name =>
          cases h
          refine ⟨?_, fits.2⟩
          simpa using fits.1
      | _ => cases h
  | key comment properties stack =>
      cases token with
      | word name =>
          cases h
          refine ⟨?_, fits.2⟩
          simpa using fits.1
      | _ => cases h
  | equals comment name properties stack =>
      cases token with
      | equals =>
          cases h
          exact ⟨⟨fits.2.1, fits.1⟩, fits.2.2⟩
      | _ => cases h

/-! ## The end of the tokens and whole runs -/

theorem Settled.finish_ok {limit : Nat} {after : Settled} {place : Position} {root : TypeExpr}
    (fits : after.Fits limit) (h : after.finish place = .ok root) :
    root.Fits limit ∧ root.tokens = after.tokens := by
  cases after with
  | finished read =>
      cases h
      exact ⟨fits, rfl⟩
  | argument name arguments stack => cases h
  | between properties stack => cases h

/-- At the end of the tokens the answer accounts for all that was read. -/
theorem State.finish_ok {limit : Nat} {state : State} {place : Position} {root : TypeExpr}
    (fits : state.Fits limit) (h : state.finish place = .ok root) :
    root.Fits limit ∧ root.tokens = state.tokens := by
  cases state with
  | settled after => exact Settled.finish_ok fits h
  | word name position stack =>
      have finished := Settled.finish_ok (settle_fits (fits_word _ name) fits) h
      rw [settle_tokens, TypeExpr.tokens] at finished
      exact finished
  | _ => cases h

@[simp] theorem State.run_nil (limit : Nat) (place : Position) (state : State) :
    state.run limit place [] = state.finish place := rfl

theorem State.run_cons (limit : Nat) (place : Position) (state : State) (token : Token.Placed)
    (rest : List Token.Placed) :
    state.run limit place (token :: rest) =
      (state.step limit token).bind fun next => next.run limit place rest := rfl

theorem State.run_cons_of_step {limit : Nat} {state next : State} {token : Token.Placed}
    (place : Position) (rest : List Token.Placed) (h : state.step limit token = .ok next) :
    state.run limit place (token :: rest) = next.run limit place rest := by
  rw [State.run_cons, h]
  rfl

/-- What a run answers fits, and is written by what was read before the run and in it. -/
theorem State.run_ok {limit : Nat} {place : Position} {state : State}
    {tokens : List Token.Placed} {root : TypeExpr} (fits : state.Fits limit)
    (h : state.run limit place tokens = .ok root) :
    root.Fits limit ∧ root.tokens = state.tokens ++ tokens.map Token.Placed.token := by
  induction tokens generalizing state with
  | nil =>
      rw [List.map_nil, List.append_nil]
      exact State.finish_ok fits h
  | cons token rest ih =>
      cases stepped : state.step limit token with
      | error error =>
          rw [State.run_cons, stepped] at h
          cases h
      | ok next =>
          rw [State.run_cons_of_step place rest stepped] at h
          obtain ⟨rootFits, written⟩ := ih (State.step_fits fits stepped) h
          refine ⟨rootFits, ?_⟩
          rw [written, State.step_tokens fits stepped, List.map_cons, List.append_assoc,
            List.singleton_append]

end InputDocs.TypeExpr

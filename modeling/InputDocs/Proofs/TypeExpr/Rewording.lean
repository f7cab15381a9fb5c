import InputDocs.Proofs.TypeExpr.Reader

/-!
# Proofs.TypeExpr.Rewording -- what the reader does not look at

The reader keeps comments as they are and never looks into them, and it copies places into errors
without comparing them. A `Rewording` changes both: the text of line comments and of block
comments, and every place. It can be done to tokens before they are read, or to what is kept of
them at any later time, and it makes no difference when (`State.step_reword`,
`State.run_reword`). So what is read from reworded tokens is what was read from the tokens,
reworded, be it an expression or an error (`TypeExpr.ofTokens_reword`).
-/

namespace InputDocs

set_option autoImplicit false

/-- A change of the texts of comments and of places. -/
structure Rewording where
  line : String → String
  block : String → String
  place : Position → Position

/-! ## What is reworded -/

section Reworded

variable (change : Rewording)

/-- The token with the text of a comment changed. -/
def Token.reword : Token → Token
  | .docLine text => .docLine (change.line text)
  | .docBlock text => .docBlock (change.block text)
  | other => other

/-- The token reworded, and its place changed. -/
def Token.Placed.reword (token : Token.Placed) : Token.Placed :=
  ⟨token.token.reword change, change.place token.position⟩

/-- The comment with its texts changed. -/
def Comment.reword : Comment → Comment
  | .lines texts => .lines (texts.map change.line)
  | .block text => .block (change.block text)

namespace TypeExpr

mutual

/-- The expression with all comments in it reworded. -/
def reword : TypeExpr → TypeExpr
  | call name arguments => call name (rewordArguments arguments)
  | object properties => object (rewordProperties properties)
  | word name => word name
  | number text => number text
  | quoted text => quoted text

/-- The arguments reworded. -/
def rewordArguments : List TypeExpr → List TypeExpr
  | [] => []
  | first :: rest => first.reword :: rewordArguments rest

/-- The properties reworded, with their comments. -/
def rewordProperties : List (Property TypeExpr) → List (Property TypeExpr)
  | [] => []
  | ⟨comment, key, value⟩ :: rest =>
    ⟨comment.map (Comment.reword change), key, value.reword⟩ :: rewordProperties rest

end

end TypeExpr

/-- The property with its comment and the comments in its value reworded. -/
def Property.reword (property : Property TypeExpr) : Property TypeExpr :=
  ⟨property.comment.map (Comment.reword change), property.key, property.value.reword change⟩

/-- The error with its place changed, and the token that it names reworded. -/
def ParseError.reword : ParseError → ParseError
  | .lexical position fault => .lexical (change.place position) fault
  | .unexpected position expected found =>
    .unexpected (change.place position) expected (found.map (Token.reword change))
  | .tooDeep position limit => .tooDeep (change.place position) limit

/-- A result reworded, or the error. -/
def Rewording.result {α : Type} (reword : α → α) : Except ParseError α → Except ParseError α
  | .ok value => .ok (reword value)
  | .error error => .error (error.reword change)

namespace TypeExpr

/-- The open call or object literal, reworded. -/
def Frame.reword : Frame → Frame
  | .call name arguments => .call name (arguments.map (TypeExpr.reword change))
  | .property properties comment key =>
    .property (properties.map (Property.reword change)) (comment.map (Comment.reword change)) key

/-- What has been read, reworded. -/
def Settled.reword : Settled → Settled
  | .finished root => .finished (root.reword change)
  | .argument name arguments stack =>
    .argument name (arguments.map (TypeExpr.reword change)) (stack.map (Frame.reword change))
  | .between properties stack =>
    .between (properties.map (Property.reword change)) (stack.map (Frame.reword change))

/-- The state of the reader with everything it keeps reworded. -/
def State.reword : State → State
  | .settled after => .settled (after.reword change)
  | .value stack => .value (stack.map (Frame.reword change))
  | .word name position stack =>
    .word name (change.place position) (stack.map (Frame.reword change))
  | .firstArgument name stack => .firstArgument name (stack.map (Frame.reword change))
  | .commentLines lines properties stack =>
    .commentLines (lines.map change.line) (properties.map (Property.reword change))
      (stack.map (Frame.reword change))
  | .key comment properties stack =>
    .key (comment.reword change) (properties.map (Property.reword change))
      (stack.map (Frame.reword change))
  | .equals comment name properties stack =>
    .equals (comment.map (Comment.reword change)) name (properties.map (Property.reword change))
      (stack.map (Frame.reword change))

end TypeExpr

end Reworded

theorem Token.reword_eq_openParen_iff (change : Rewording) (token : Token) :
    token.reword change = .openParen ↔ token = .openParen := by
  cases token <;> simp [reword]

theorem Token.reword_eq_closeParen_iff (change : Rewording) (token : Token) :
    token.reword change = .closeParen ↔ token = .closeParen := by
  cases token <;> simp [reword]

namespace TypeExpr

variable (change : Rewording)

theorem reword_call (name : String) (arguments : List TypeExpr) :
    (call name arguments).reword change = call name (arguments.map (reword change)) := by
  have each : rewordArguments change arguments = arguments.map (reword change) := by
    induction arguments with
    | nil => rfl
    | cons first rest ih => rw [rewordArguments, ih, List.map_cons]
  rw [reword, each]

theorem reword_object (properties : List (Property TypeExpr)) :
    (object properties).reword change = object (properties.map (Property.reword change)) := by
  have each : rewordProperties change properties = properties.map (Property.reword change) := by
    induction properties with
    | nil => rfl
    | cons first rest ih =>
        rw [rewordProperties, ih]
        rfl
  rw [reword, each]

/-! ## One token -/

theorem settle_reword (root : TypeExpr) (stack : List Frame) :
    settle (root.reword change) (stack.map (Frame.reword change)) =
      (settle root stack).reword change := by
  cases stack with
  | nil => rfl
  | cons frame stack => cases frame <;> rfl

variable (limit : Nat)

theorem enter_reword (stack : List Frame) (position : Position) (opened : State) :
    enter limit (stack.map (Frame.reword change)) (change.place position) (opened.reword change) =
      change.result (State.reword change) (enter limit stack position opened) := by
  unfold enter
  rw [List.length_map]
  split <;> rfl

/-- The state after an expression, for the expression reworded. -/
theorem settled_reword (root : TypeExpr) (stack : List Frame) :
    .ok (.settled (settle (root.reword change) (stack.map (Frame.reword change)))) =
      change.result (State.reword change) (.ok (.settled (settle root stack))) := by
  rw [settle_reword]
  rfl

theorem beginValue_reword (stack : List Frame) (token : Token.Placed) :
    beginValue limit (stack.map (Frame.reword change)) (token.reword change) =
      change.result (State.reword change) (beginValue limit stack token) := by
  obtain ⟨token, position⟩ := token
  cases token with
  | openBrace => exact enter_reword change limit stack position (.settled (.between [] stack))
  | number text => exact settled_reword change (.number text) stack
  | quoted text => exact settled_reword change (.quoted text) stack
  | _ => rfl

theorem Settled.step_reword (after : Settled) (token : Token.Placed) :
    (after.reword change).step (token.reword change) =
      change.result (State.reword change) (after.step token) := by
  obtain ⟨token, position⟩ := token
  cases after with
  | finished root => rfl
  | argument name arguments stack =>
      cases token with
      | closeParen =>
          have settled := settled_reword change (.call name arguments.reverse) stack
          rwa [reword_call, List.map_reverse] at settled
      | _ => rfl
  | between properties stack =>
      cases token with
      | closeBrace =>
          have settled := settled_reword change (.object properties.reverse) stack
          rwa [reword_object, List.map_reverse] at settled
      | _ => rfl

/-- **The reader looks neither into comments nor at places.** A step with everything reworded is
the step, reworded. -/
theorem State.step_reword (state : State) (token : Token.Placed) :
    (state.reword change).step limit (token.reword change) =
      change.result (State.reword change) (state.step limit token) := by
  cases state with
  | settled after => exact after.step_reword change token
  | value stack => exact beginValue_reword change limit stack token
  | word name position stack =>
      by_cases opens : token.token = .openParen
      · obtain ⟨_, place⟩ := token
        subst opens
        exact enter_reword change limit stack position (.firstArgument name stack)
      · have leaf : (token.reword change).token ≠ .openParen :=
          mt (token.token.reword_eq_openParen_iff change).1 opens
        rw [State.reword, State.word_step leaf, State.word_step opens, ← Settled.step_reword,
          ← settle_reword]
        rfl
  | firstArgument name stack =>
      by_cases closes : token.token = .closeParen
      · obtain ⟨_, place⟩ := token
        subst closes
        exact settled_reword change (.call name []) stack
      · have more : (token.reword change).token ≠ .closeParen :=
          mt (token.token.reword_eq_closeParen_iff change).1 closes
        rw [State.reword, State.firstArgument_step more, State.firstArgument_step closes]
        exact beginValue_reword change limit (.call name [] :: stack) token
  | commentLines lines properties stack =>
      obtain ⟨token, place⟩ := token
      cases token with
      | word name =>
          change Except.ok
            (State.equals (some (.lines (lines.map change.line).reverse)) name _ _) = _
          rw [← List.map_reverse]
          rfl
      | _ => rfl
  | key comment properties stack =>
      obtain ⟨token, place⟩ := token
      cases token <;> rfl
  | equals comment name properties stack =>
      obtain ⟨token, place⟩ := token
      cases token <;> rfl

/-! ## Whole runs -/

theorem Settled.finish_reword (after : Settled) (place : Position) :
    (after.reword change).finish (change.place place) =
      change.result (TypeExpr.reword change) (after.finish place) := by
  cases after <;> rfl

theorem State.finish_reword (state : State) (place : Position) :
    (state.reword change).finish (change.place place) =
      change.result (TypeExpr.reword change) (state.finish place) := by
  cases state with
  | settled after => exact after.finish_reword change place
  | word name position stack =>
      have finished := (settle (.word name) stack).finish_reword change place
      rwa [← settle_reword] at finished
  | _ => rfl

theorem State.run_reword (place : Position) (state : State) (tokens : List Token.Placed) :
    (state.reword change).run limit (change.place place)
        (tokens.map (Token.Placed.reword change)) =
      change.result (TypeExpr.reword change) (state.run limit place tokens) := by
  induction tokens generalizing state with
  | nil => exact state.finish_reword change place
  | cons token rest ih =>
      rw [List.map_cons, State.run_cons, State.run_cons, State.step_reword]
      cases state.step limit token with
      | error error => rfl
      | ok next => exact ih next

/-- **Tokens are read as what they say.** What is read from reworded tokens is what is read from
the tokens, reworded. -/
theorem ofTokens_reword (maxDepth : Nat) (place : Position) (tokens : List Token.Placed) :
    ofTokens maxDepth (change.place place) (tokens.map (Token.Placed.reword change)) =
      change.result (TypeExpr.reword change) (ofTokens maxDepth place tokens) :=
  State.run_reword change _ place (.value []) tokens

end TypeExpr

end InputDocs

import InputDocs.Proofs.TypeExpr.Reader
import InputDocs.TypeExpr.Descent

/-!
# Proofs.TypeExpr.Descent -- one token at a time, or by recursive descent

The reader that takes one token at a time and the recursive descent give the same answer to all
tokens, the same expression or the same error in the same place (`Descent.ofTokens_eq`).

The stack of the reader is what the functions of the descent have under way. So where the descent
stands on a level, the reader has a stack of that height, and while a function is at work the reader
goes over the same tokens above it: where the function fails it fails, and where the function comes
back the reader has settled what was read under the same stack (`Descent.Follows`).
-/

namespace InputDocs.TypeExpr.Descent

set_option autoImplicit false

variable {limit : Nat} {place : Position}

/-- The reader goes over the tokens as the descent does. Where that fails it fails in the same way;
where it comes back, on its level again, the reader goes on from what it has read. -/
def Follows {α : Type} {tokens : List Token.Placed} (limit : Nat) (place : Position) (level : Nat)
    (state : State) (next : α → Settled) : Except ParseError (Parsed α tokens) → Prop
  | .error error => state.run limit place tokens = .error error
  | .ok parsed => parsed.level = level ∧
      state.run limit place tokens = (State.settled (next parsed.value)).run limit place parsed.rest

/-! ## Comments -/

/-- The reader inside an object literal after a comment, if there was one. -/
def commented (comment : Option Comment) (properties : List (Property TypeExpr))
    (stack : List Frame) : State :=
  match comment with
  | none => .settled (.between properties stack)
  | some (.block text) => .key (.block text) properties stack
  | some (.lines lines) => .commentLines lines.reverse properties stack

section Comments

variable (limit : Nat) (place : Position)

theorem run_commentLines (lines : List String) (properties : List (Property TypeExpr))
    (stack : List Frame) (tokens : List Token.Placed) :
    (State.commentLines lines.reverse properties stack).run limit place tokens =
      (State.commentLines (lines ++ (commentLines tokens).1).reverse properties stack).run limit place
        (commentLines tokens).2 := by
  fun_induction commentLines tokens generalizing lines with
  | case1 text position rest more after same ih =>
      have longer := ih (lines ++ [text])
      rw [same] at longer
      have stepped : (State.commentLines lines.reverse properties stack).step limit
          ⟨.docLine text, position⟩ =
            .ok (.commentLines (text :: lines.reverse) properties stack) := rfl
      rw [State.run_cons_of_step place rest stepped]
      simpa using longer
  | case2 tokens => simp

/-- The reader takes in a comment, if one comes next, before anything else. -/
theorem run_comment (properties : List (Property TypeExpr)) (stack : List Frame)
    (tokens : List Token.Placed) :
    (State.settled (.between properties stack)).run limit place tokens =
      (commented (comment tokens).1 properties stack).run limit place (comment tokens).2 := by
  fun_cases comment tokens with
  | case1 text position rest => rfl
  | case2 text position rest lines after same =>
      have taken := run_commentLines limit place [text] properties stack rest
      rw [same] at taken
      exact taken
  | case3 tokens => rfl

theorem commentLines_ne_docLine (tokens : List Token.Placed) (text : String) (position : Position)
    (rest : List Token.Placed) : (commentLines tokens).2 ≠ ⟨.docLine text, position⟩ :: rest := by
  fun_induction commentLines tokens with
  | case1 _ _ _ _ _ same ih =>
      rw [same] at ih
      exact ih
  | case2 tokens other => exact fun same => other _ _ _ same

theorem step_commented_word (comment : Option Comment) (properties : List (Property TypeExpr))
    (stack : List Frame) (key : String) (position : Position) :
    (commented comment properties stack).step limit ⟨.word key, position⟩ =
      .ok (.equals comment key properties stack) := by
  match comment with
  | none => rfl
  | some (.block text) => rfl
  | some (.lines lines) =>
      show Except.ok (State.equals (some (.lines lines.reverse.reverse)) _ _ _) = _
      rw [List.reverse_reverse]

/-- Where no key comes after a comment the reader fails, unless the object literal could end. -/
theorem run_commented_of_no_key {first : Token.Placed} (opens : first.token ≠ .closeBrace)
    (rest : List Token.Placed) (properties : List (Property TypeExpr)) (stack : List Frame)
    (no_key : ∀ key position after,
      (comment (first :: rest)).2 ≠ ⟨.word key, position⟩ :: after) :
    (commented (comment (first :: rest)).1 properties stack).run limit place
        (comment (first :: rest)).2 =
      .error (unexpected place .propertyKey (comment (first :: rest)).2) := by
  obtain ⟨token, position⟩ := first
  cases token with
  | docBlock text =>
      match rest with
      | [] => rfl
      | ⟨token, there⟩ :: after =>
          cases token with
          | word key => exact absurd rfl (no_key key there after)
          | _ => rfl
  | docLine text =>
      have no_line := commentLines_ne_docLine rest
      simp only [comment] at no_key ⊢
      rcases found : commentLines rest with ⟨lines, after⟩
      rw [found] at no_line no_key
      match after with
      | [] => rfl
      | ⟨token, there⟩ :: after =>
          cases token with
          | word key => exact absurd rfl (no_key key there after)
          | docLine line => exact absurd rfl (no_line line there after)
          | _ => rfl
  | closeBrace => exact absurd rfl opens
  | word key => exact absurd rfl (no_key key position rest)
  | _ => rfl

/-- Where no equals sign comes after a key the reader fails. -/
theorem run_equals_of_other {rest : List Token.Placed}
    (other : ∀ position inside, rest ≠ ⟨.equals, position⟩ :: inside) (comment : Option Comment)
    (key : String) (properties : List (Property TypeExpr)) (stack : List Frame) :
    (State.equals comment key properties stack).run limit place rest =
      .error (unexpected place .equalsSign rest) := by
  match rest with
  | [] => rfl
  | ⟨token, position⟩ :: after =>
      cases token with
      | equals => exact absurd rfl (other position after)
      | _ => rfl

end Comments

/-! ## The descent -/

theorem enter_of_lt {level : Nat} (room : level < limit) (position : Position) :
    enter limit level position = .ok (level + 1) := by
  rw [enter, if_neg (Nat.not_le.2 room)]

theorem enter_of_le {level : Nat} (full : limit ≤ level) (position : Position) :
    enter limit level position = .error (.tooDeep position limit) := by
  rw [enter, if_pos full]

/-- The counter says when the reader may open a call or an object literal. -/
theorem enter_eq (stack : List Frame) (position : Position) (opened : State) :
    TypeExpr.enter limit stack position opened =
      (enter limit stack.length position).map fun _ => opened := by
  unfold TypeExpr.enter enter
  by_cases room : stack.length < limit
  · rw [if_pos room, if_neg (Nat.not_le.2 room)]
    rfl
  · rw [if_neg room, if_pos (Nat.not_lt.1 room)]
    rfl

section

variable {α β : Type} {inner tokens : List Token.Placed} {level level' : Nat}
  {state state' : State} {next : α → Settled} {next' : β → Settled}

theorem Follows.congr {outcome : Except ParseError (Parsed α tokens)}
    (follows : Follows limit place level state next outcome)
    (same : state'.run limit place tokens = state.run limit place tokens) :
    Follows limit place level state' next outcome := by
  cases outcome with
  | error error => exact same.trans follows
  | ok parsed => exact ⟨follows.1, same.trans follows.2⟩

/-- What a function makes of the result of another is followed, if the reader comes to the same
and goes on in the same way. -/
theorem Follows.map {outcome : Except ParseError (Parsed α inner)}
    {f : Parsed α inner → Parsed β tokens}
    (follows : Follows limit place level state next outcome)
    (same : state'.run limit place tokens = state.run limit place inner)
    (back : ∀ parsed, parsed.level = level → (f parsed).level = level' ∧
      (f parsed).rest = parsed.rest ∧ next' (f parsed).value = next parsed.value) :
    Follows limit place level' state' next' (outcome >>= fun parsed => pure (f parsed)) := by
  cases outcome with
  | error error => exact same.trans follows
  | ok parsed =>
      obtain ⟨level, goes⟩ := follows
      obtain ⟨returned, rest, value⟩ := back parsed level
      refine ⟨returned, ?_⟩
      rw [rest, value]
      exact same.trans goes

/-- On the way into a call or an object literal the limit is checked, and on the way out the
counter is back where it was. -/
theorem Follows.enter {stack : List Frame} {position : Position} {opened : State}
    {body : Nat → Except ParseError (Parsed TypeExpr inner)} (shorter : inner.length < tokens.length)
    (opens : (State.value stack).run limit place tokens =
      (TypeExpr.enter limit stack position opened).bind fun opened => opened.run limit place inner)
    (follows : Follows limit place (stack.length + 1) opened (settle · stack)
      (body (stack.length + 1))) :
    Follows limit place stack.length (.value stack) (settle · stack) (do
      let level ← Descent.enter limit stack.length position
      let parsed ← body level
      return (parsed.leave.after shorter : Parsed TypeExpr tokens)) := by
  rw [enter_eq] at opens
  by_cases room : stack.length < limit
  · rw [enter_of_lt room] at opens ⊢
    refine follows.map opens fun parsed level => ⟨?_, rfl, rfl⟩
    show parsed.level - 1 = _
    rw [level, Nat.add_sub_cancel]
  · rw [enter_of_le (Nat.not_lt.1 room)] at opens ⊢
    exact opens

end

mutual

theorem follows_dataType (stack : List Frame) (tokens : List Token.Placed) :
    Follows limit place stack.length (.value stack) (settle · stack)
      (dataType limit place stack.length tokens) := by
  match tokens with
  | [] =>
      rw [dataType]
      · rfl
      all_goals simp
  | ⟨token, position⟩ :: rest =>
      cases token with
      | word name =>
          match rest with
          | [] =>
              rw [dataType]
              · exact ⟨rfl, rfl⟩
              · simp
          | ⟨token, there⟩ :: inside =>
              by_cases opens : token = .openParen
              · subst opens
                rw [dataType]
                exact .enter _ rfl (follows_callArguments name stack inside)
              · rw [dataType]
                · have stepped : (State.value stack).step limit ⟨.word name, position⟩ =
                      .ok (.word name position stack) := rfl
                  refine ⟨rfl, ?_⟩
                  rw [State.run_cons_of_step _ _ stepped, State.run_cons, State.word_step opens]
                  rfl
                · intro _ _ same
                  cases same
                  exact opens rfl
      | openBrace =>
          rw [dataType]
          exact .enter _ rfl (follows_objectBody [] stack rest)
      | number text | quoted text =>
          rw [dataType]
          exact ⟨rfl, rfl⟩
      | _ =>
          rw [dataType]
          · rfl
          all_goals simp
termination_by (tokens.length, 0)

theorem follows_callArguments (name : String) (stack : List Frame) (tokens : List Token.Placed) :
    Follows limit place (stack.length + 1) (.firstArgument name stack) (settle · stack)
      (callArguments limit place (stack.length + 1) name tokens) := by
  have arguments := follows_moreArguments name [] stack tokens
  match tokens with
  | [] =>
      rw [callArguments]
      · exact arguments.congr rfl
      · simp
  | ⟨token, position⟩ :: rest =>
      by_cases closes : token = .closeParen
      · subst closes
        rw [callArguments]
        exact ⟨rfl, rfl⟩
      · rw [callArguments]
        · refine arguments.congr ?_
          rw [State.run_cons, State.firstArgument_step closes]
          rfl
        · intro _ _ same
          cases same
          exact closes rfl
termination_by (tokens.length, 2)

theorem follows_moreArguments (name : String) (arguments : List TypeExpr) (stack : List Frame)
    (tokens : List Token.Placed) :
    Follows limit place (stack.length + 1) (.value (.call name arguments.reverse :: stack))
      (settle · stack) (moreArguments limit place (stack.length + 1) name arguments tokens) := by
  have first := follows_dataType (.call name arguments.reverse :: stack) tokens
  rw [moreArguments]
  rw [List.length_cons] at first
  cases read : dataType limit place (stack.length + 1) tokens with
  | error error =>
      rw [read] at first
      exact first
  | ok argument =>
      obtain ⟨value, rest, level, shorter⟩ := argument
      rw [read] at first
      obtain ⟨rfl, goes⟩ := first
      cases rest with
      | nil => exact goes
      | cons next rest =>
          have fewer : rest.length < tokens.length := Nat.lt_of_succ_lt shorter
          obtain ⟨token, position⟩ := next
          cases token with
          | comma =>
              have others := follows_moreArguments name (arguments ++ [value]) stack rest
              refine others.map ?_ fun parsed level => ⟨level, rfl, rfl⟩
              rw [goes, List.reverse_append]
              rfl
          | closeParen =>
              have turned : (value :: arguments.reverse).reverse = arguments ++ [value] := by simp
              refine ⟨rfl, goes.trans ?_⟩
              rw [← turned]
              rfl
          | _ => exact goes
termination_by (tokens.length, 1)

theorem follows_objectBody (properties : List (Property TypeExpr)) (stack : List Frame)
    (tokens : List Token.Placed) :
    Follows limit place (stack.length + 1) (.settled (.between properties.reverse stack))
      (settle · stack) (objectBody limit place (stack.length + 1) properties tokens) := by
  match tokens with
  | [] =>
      rw [objectBody]
      rfl
  | ⟨token, position⟩ :: rest =>
      by_cases closes : token = .closeBrace
      · subst closes
        rw [objectBody]
        refine ⟨rfl, (State.run_cons_of_step place rest rfl).trans ?_⟩
        rw [List.reverse_reverse]
      · have first := follows_property properties.reverse stack ⟨token, position⟩ closes rest
        rw [objectBody]
        · cases read : property limit place (stack.length + 1) (⟨token, position⟩ :: rest) with
          | error error =>
              rw [read] at first
              exact first
          | ok next =>
              obtain ⟨value, rest, level, shorter⟩ := next
              rw [read] at first
              obtain ⟨rfl, goes⟩ := first
              have others := follows_objectBody (properties ++ [value]) stack rest
              refine others.map ?_ fun parsed level => ⟨level, rfl, rfl⟩
              rw [goes, List.reverse_append]
              rfl
        · intro _ same
          cases same
          exact closes rfl
termination_by (tokens.length, 2)

theorem follows_property (properties : List (Property TypeExpr)) (stack : List Frame)
    (first : Token.Placed) (opens : first.token ≠ .closeBrace) (rest : List Token.Placed) :
    Follows limit place (stack.length + 1) (.settled (.between properties stack))
      (fun property => .between (property :: properties) stack)
      (property limit place (stack.length + 1) (first :: rest)) := by
  have taken := run_comment limit place properties stack (first :: rest)
  rw [property]
  split
  · rename_i comment key position there inside found
    rw [found] at taken
    have fewer := length_of_comment found
    have value := follows_dataType (.property properties comment key :: stack) inside
    refine value.map ?_ fun parsed level => ⟨level, rfl, rfl⟩
    rw [taken, State.run_cons_of_step _ _ (step_commented_word _ _ _ _ _ _)]
    exact State.run_cons_of_step _ _ rfl
  · rename_i comment key position after other found
    rw [found] at taken
    have no_sign := run_equals_of_other limit place other comment key properties stack
    rw [State.run_cons_of_step _ _ (step_commented_word _ _ _ _ _ _)] at taken
    exact taken.trans no_sign
  · rename_i comment after _ other found
    have no_key := run_commented_of_no_key limit place opens rest properties stack
    rw [found] at taken no_key
    exact taken.trans (no_key other)
termination_by (rest.length + 1, 1)

end

/-- **The reader and the descent give the same answer**, to all tokens and under every limit. -/
theorem ofTokens_eq (maxDepth : Nat) (place : Position) (tokens : List Token.Placed) :
    ofTokens maxDepth place tokens = TypeExpr.ofTokens maxDepth place tokens := by
  have follows : Follows (min maxDepth greatestDepth) place 0 (.value []) (settle · [])
      (dataType (min maxDepth greatestDepth) place 0 tokens) := follows_dataType [] tokens
  rw [ofTokens, TypeExpr.ofTokens]
  cases read : dataType (min maxDepth greatestDepth) place 0 tokens with
  | error error =>
      rw [read] at follows
      exact follows.symm
  | ok root =>
      rw [read] at follows
      obtain ⟨-, goes⟩ := follows
      obtain ⟨value, rest, level, shorter⟩ := root
      rw [goes]
      cases rest <;> rfl

end InputDocs.TypeExpr.Descent

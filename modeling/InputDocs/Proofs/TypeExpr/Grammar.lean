import InputDocs.Proofs.TypeExpr.Reader

/-!
# Proofs.TypeExpr.Grammar -- the reader accepts its grammar within the limit

The grammar of type expressions is their written form: `TypeExpr.tokens` writes an expression, and
a list of tokens is in the grammar if it is what some expression writes. `Proofs.TypeExpr.Reader`
shows that whatever is read is written by the tokens. This module shows the converse, that the
reader takes back every expression that fits (`reads`), and puts the two together:

* `run_eq_ok_iff`: a run from the start answers an expression exactly if the tokens write it, it
  has no empty comment and it is no deeper than the limit;
* `tokens_injective`: so no two expressions without empty comments are written alike;
* `ofTokens_eq_ok_iff_written`: both for the limit that is asked for and the greatest there is.

The converse is an induction on the expression. `Reads limit place expr` is what it proves: from
any state that waits for a value, the tokens of `expr` lead to the state after it. Arguments and
properties are inductions of their own on the lists, with those read before as an accumulator.
The reader has no look-ahead, so a word is taken as a leaf only when the next token is seen: the
statement needs that what follows does not open a parenthesis.
-/

namespace InputDocs.TypeExpr

set_option autoImplicit false

variable {limit : Nat} {place : Position}

/-! ## What may follow an expression -/

/-- The tokens do not begin with a parenthesis that would make a call of the word before them. -/
def NoOpening (tokens : List Token.Placed) : Prop :=
  (tokens.map Token.Placed.token).head? ≠ some .openParen

theorem noOpening_cons (token : Token) (position : Position) (rest : List Token.Placed)
    (other : token ≠ .openParen) : NoOpening (⟨token, position⟩ :: rest) := by
  simpa [NoOpening] using other

theorem head?_tokens_ne_closeParen (expr : TypeExpr) (more : List Token) :
    (expr.tokens ++ more).head? ≠ some .closeParen := by
  cases expr <;> simp [tokens]

theorem head?_argumentTokens_ne_closeParen (first : TypeExpr) (others : List TypeExpr)
    (more : List Token) :
    (argumentTokens (first :: others) ++ more).head? ≠ some .closeParen := by
  cases others with
  | nil =>
      rw [argumentTokens]
      exact head?_tokens_ne_closeParen first more
  | cons second others =>
      rw [argumentTokens_cons first (List.cons_ne_nil second others), List.append_assoc]
      exact head?_tokens_ne_closeParen first _

theorem head?_propertyTokens_ne_openParen (properties : List (Property TypeExpr))
    (more : List Token) :
    (propertyTokens properties ++ .closeBrace :: more).head? ≠ some .openParen := by
  cases properties with
  | nil => simp [propertyTokens]
  | cons first rest =>
      obtain ⟨comment, name, value⟩ := first
      cases comment with
      | none => simp [propertyTokens]
      | some comment =>
          cases comment with
          | block text => simp [propertyTokens, Comment.tokens]
          | lines texts => cases texts <;> simp [propertyTokens, Comment.tokens]

/-- A word that is not the name of a call is a complete expression. -/
theorem State.run_word {rest : List Token.Placed} (follow : NoOpening rest) (name : String)
    (position : Position) (stack : List Frame) :
    (State.word name position stack).run limit place rest =
      (State.settled (settle (.word name) stack)).run limit place rest := by
  cases rest with
  | nil => rfl
  | cons token rest =>
      have leaf : token.token ≠ .openParen := fun opens => follow (by simp [opens])
      rw [State.run_cons, State.run_cons, State.word_step leaf]
      rfl

theorem State.run_firstArgument {tokens : List Token.Placed}
    (more : (tokens.map Token.Placed.token).head? ≠ some .closeParen) (name : String)
    (stack : List Frame) :
    (State.firstArgument name stack).run limit place tokens =
      (State.value (.call name [] :: stack)).run limit place tokens := by
  cases tokens with
  | nil => rfl
  | cons token rest =>
      have begins : token.token ≠ .closeParen := fun closes => more (by simp [closes])
      rw [State.run_cons, State.run_cons, State.firstArgument_step begins]

/-! ## Reading back what is written -/

/-- From any state that waits for a value, the tokens of the expression lead to the state after
it, if it fits there. -/
def Reads (limit : Nat) (place : Position) (expr : TypeExpr) : Prop :=
  ∀ (stack : List Frame) (read rest : List Token.Placed),
    read.map Token.Placed.token = expr.tokens → expr.Fits (limit - stack.length) →
    NoOpening rest →
    (State.value stack).run limit place (read ++ rest) =
      (State.settled (settle expr stack)).run limit place rest

theorem reads_word (name : String) : Reads limit place (word name) := by
  intro stack read rest written _ follow
  rw [tokens] at written
  obtain ⟨⟨_, position⟩, rfl, rfl⟩ := List.map_eq_singleton_iff.1 written
  exact State.run_word follow name position stack

theorem reads_number (text : String) : Reads limit place (number text) := by
  intro stack read rest written _ _
  rw [tokens] at written
  obtain ⟨⟨_, position⟩, rfl, rfl⟩ := List.map_eq_singleton_iff.1 written
  rfl

theorem reads_quoted (text : String) : Reads limit place (quoted text) := by
  intro stack read rest written _ _
  rw [tokens] at written
  obtain ⟨⟨_, position⟩, rfl, rfl⟩ := List.map_eq_singleton_iff.1 written
  rfl

/-- The arguments of an open call and its closing parenthesis complete the call. -/
theorem run_arguments {name : String} {arguments : List TypeExpr} {stack : List Frame}
    {read rest : List Token.Placed} (each : ∀ argument ∈ arguments, Reads limit place argument)
    (done : List TypeExpr) (nonempty : arguments ≠ [])
    (fits : ∀ argument ∈ arguments, argument.Fits (limit - stack.length - 1))
    (written : read.map Token.Placed.token = argumentTokens arguments ++ [.closeParen]) :
    (State.value (.call name done :: stack)).run limit place (read ++ rest) =
      (State.settled (settle (.call name (done.reverse ++ arguments)) stack)).run limit place
        rest := by
  induction arguments generalizing done read with
  | nil => exact absurd rfl nonempty
  | cons first others ih =>
      have readsFirst := each first List.mem_cons_self (.call name done :: stack)
      have firstFits := fits first List.mem_cons_self
      cases others with
      | nil =>
          rw [argumentTokens] at written
          obtain ⟨own, last, rfl, ownWritten, lastWritten⟩ := List.map_eq_append_iff.1 written
          obtain ⟨⟨_, position⟩, rfl, rfl⟩ := List.map_eq_singleton_iff.1 lastWritten
          have follow := noOpening_cons .closeParen position rest (by simp)
          rw [List.append_assoc, List.singleton_append,
            readsFirst own _ ownWritten firstFits follow]
          have closes : (State.settled (settle first (.call name done :: stack))).step limit
              ⟨.closeParen, position⟩ =
                .ok (.settled (settle (.call name (first :: done).reverse) stack)) := rfl
          rw [State.run_cons_of_step place rest closes, List.reverse_cons]
      | cons second others =>
          rw [argumentTokens_cons first (List.cons_ne_nil second others),
            List.append_assoc, List.cons_append] at written
          obtain ⟨own, tail, rfl, ownWritten, tailWritten⟩ := List.map_eq_append_iff.1 written
          obtain ⟨⟨_, position⟩, tail, rfl, rfl, restWritten⟩ := List.map_eq_cons_iff.1 tailWritten
          have follow := noOpening_cons .comma position (tail ++ rest) (by simp)
          rw [List.append_assoc, List.cons_append, readsFirst own _ ownWritten firstFits follow]
          have parts : (State.settled (settle first (.call name done :: stack))).step limit
              ⟨.comma, position⟩ = .ok (.value (.call name (first :: done) :: stack)) := rfl
          rw [State.run_cons_of_step place _ parts,
            ih (fun argument member => each argument (List.mem_cons_of_mem first member))
              (first :: done) (List.cons_ne_nil second others)
              (fun argument member => fits argument (List.mem_cons_of_mem first member))
              restWritten,
            List.reverse_cons, List.append_assoc, List.singleton_append]

theorem reads_call (name : String) {arguments : List TypeExpr}
    (each : ∀ argument ∈ arguments, Reads limit place argument) :
    Reads limit place (call name arguments) := by
  intro stack read rest written fits _
  obtain ⟨opens, fits⟩ := fits_call.1 fits
  rw [tokens] at written
  obtain ⟨⟨_, begins⟩, tail, rfl, rfl, tailWritten⟩ := List.map_eq_cons_iff.1 written
  obtain ⟨⟨_, opening⟩, inside, rfl, rfl, insideWritten⟩ := List.map_eq_cons_iff.1 tailWritten
  have enters : (State.word name begins stack).step limit ⟨.openParen, opening⟩ =
      .ok (.firstArgument name stack) := if_pos (Nat.lt_of_sub_pos opens)
  have waits : (State.value stack).step limit ⟨.word name, begins⟩ =
      .ok (.word name begins stack) := rfl
  rw [List.cons_append, List.cons_append, State.run_cons_of_step place _ waits,
    State.run_cons_of_step place _ enters]
  cases arguments with
  | nil =>
      obtain ⟨⟨_, closing⟩, rfl, rfl⟩ := List.map_eq_singleton_iff.1 insideWritten
      rfl
  | cons first others =>
      have more : ((inside ++ rest).map Token.Placed.token).head? ≠ some .closeParen := by
        rw [List.map_append, insideWritten, List.append_assoc]
        exact head?_argumentTokens_ne_closeParen first others _
      rw [State.run_firstArgument more, run_arguments each [] (List.cons_ne_nil first others)
        fits insideWritten, List.reverse_nil, List.nil_append]

/-- Further lines of a comment are taken one by one, up to the key. -/
theorem run_commentLines {stack : List Frame} {done : List (Property TypeExpr)} {name : String}
    {texts : List String} {read rest : List Token.Placed} (before : List String)
    (written : read.map Token.Placed.token = texts.map .docLine ++ [.word name]) :
    (State.commentLines before done stack).run limit place (read ++ rest) =
      (State.equals (some (.lines (before.reverse ++ texts))) name done stack).run limit place
        rest := by
  induction texts generalizing before read with
  | nil =>
      obtain ⟨⟨_, position⟩, rfl, rfl⟩ := List.map_eq_singleton_iff.1 written
      rw [List.append_nil]
      rfl
  | cons first others ih =>
      obtain ⟨⟨_, position⟩, tail, rfl, rfl, tailWritten⟩ := List.map_eq_cons_iff.1 written
      have takes : (State.commentLines before done stack).step limit ⟨.docLine first, position⟩ =
          .ok (.commentLines (first :: before) done stack) := rfl
      rw [List.cons_append, State.run_cons_of_step place _ takes, ih (first :: before) tailWritten,
        List.reverse_cons, List.append_assoc, List.singleton_append]

/-- The comment before a property and its key lead to the equals sign. -/
theorem run_key {stack : List Frame} {done : List (Property TypeExpr)} {name : String}
    {comment : Option Comment} {read rest : List Token.Placed}
    (comment_ne : comment ≠ some (.lines []))
    (written : read.map Token.Placed.token =
      (comment.map Comment.tokens).getD [] ++ [.word name]) :
    (State.settled (.between done stack)).run limit place (read ++ rest) =
      (State.equals comment name done stack).run limit place rest := by
  match comment with
  | none =>
      obtain ⟨⟨_, position⟩, rfl, rfl⟩ := List.map_eq_singleton_iff.1 written
      rfl
  | some (.block text) =>
      obtain ⟨⟨_, position⟩, tail, rfl, rfl, tailWritten⟩ := List.map_eq_cons_iff.1 written
      obtain ⟨⟨_, ends⟩, rfl, rfl⟩ := List.map_eq_singleton_iff.1 tailWritten
      rfl
  | some (.lines []) => exact absurd rfl comment_ne
  | some (.lines (first :: others)) =>
      obtain ⟨⟨_, position⟩, tail, rfl, rfl, tailWritten⟩ := List.map_eq_cons_iff.1 written
      exact run_commentLines [first] tailWritten

/-- The properties of an open object literal and its closing brace complete the literal. -/
theorem run_properties {properties : List (Property TypeExpr)} {stack : List Frame}
    {read rest : List Token.Placed}
    (each : ∀ property ∈ properties, Reads limit place property.value)
    (done : List (Property TypeExpr))
    (fits : ∀ property ∈ properties, property.Fits (limit - stack.length - 1))
    (written : read.map Token.Placed.token = propertyTokens properties ++ [.closeBrace]) :
    (State.settled (.between done stack)).run limit place (read ++ rest) =
      (State.settled (settle (.object (done.reverse ++ properties)) stack)).run limit place
        rest := by
  induction properties generalizing done read with
  | nil =>
      obtain ⟨⟨_, position⟩, rfl, rfl⟩ := List.map_eq_singleton_iff.1 written
      rw [List.append_nil]
      rfl
  | cons first others ih =>
      have readsFirst := each first List.mem_cons_self
      obtain ⟨comment_ne, firstFits⟩ := fits first List.mem_cons_self
      obtain ⟨comment, name, value⟩ := first
      have parts : read.map Token.Placed.token =
          ((comment.map Comment.tokens).getD [] ++ [.word name]) ++ .equals ::
            (value.tokens ++ (propertyTokens others ++ [.closeBrace])) := by
        rw [written, propertyTokens]
        simp
      obtain ⟨key, _, rfl, keyWritten, afterKey⟩ := List.map_eq_append_iff.1 parts
      obtain ⟨⟨_, position⟩, _, rfl, rfl, afterEquals⟩ := List.map_eq_cons_iff.1 afterKey
      obtain ⟨own, tail, rfl, ownWritten, afterValue⟩ := List.map_eq_append_iff.1 afterEquals
      have follow : NoOpening (tail ++ rest) := by
        rw [NoOpening, List.map_append, afterValue, List.append_assoc, List.singleton_append]
        exact head?_propertyTokens_ne_openParen others _
      have waits : (State.equals comment name done stack).step limit ⟨.equals, position⟩ =
          .ok (.value (.property done comment name :: stack)) := rfl
      rw [List.append_assoc, run_key comment_ne keyWritten, List.cons_append,
        State.run_cons_of_step place _ waits, List.append_assoc,
        readsFirst (.property done comment name :: stack) own _ ownWritten firstFits follow]
      have next := ih (fun property member => each property (List.mem_cons_of_mem _ member))
        (⟨comment, name, value⟩ :: done)
        (fun property member => fits property (List.mem_cons_of_mem _ member)) afterValue
      rw [List.reverse_cons, List.append_assoc, List.singleton_append] at next
      exact next

theorem reads_object {properties : List (Property TypeExpr)}
    (each : ∀ property ∈ properties, Reads limit place property.value) :
    Reads limit place (object properties) := by
  intro stack read rest written fits _
  obtain ⟨opens, fits⟩ := fits_object.1 fits
  rw [tokens] at written
  obtain ⟨⟨_, opening⟩, inside, rfl, rfl, insideWritten⟩ := List.map_eq_cons_iff.1 written
  have enters : (State.value stack).step limit ⟨.openBrace, opening⟩ =
      .ok (.settled (.between [] stack)) := if_pos (Nat.lt_of_sub_pos opens)
  rw [List.cons_append, State.run_cons_of_step place _ enters,
    run_properties each [] fits insideWritten, List.reverse_nil, List.nil_append]

/-- The reader takes back every expression that fits, wherever it waits for one. -/
theorem reads (limit : Nat) (place : Position) (expr : TypeExpr) : Reads limit place expr := by
  induction expr using nested_induction with
  | call name arguments each => exact reads_call name each
  | object properties each => exact reads_object each
  | word name => exact reads_word name
  | number text => exact reads_number text
  | quoted text => exact reads_quoted text

/-! ## Runs from the start -/

/-- A run from the start answers exactly the expressions that the tokens write and that fit. -/
theorem run_eq_ok_iff {tokens : List Token.Placed} {expr : TypeExpr} :
    (State.value []).run limit place tokens = .ok expr ↔
      tokens.map Token.Placed.token = expr.tokens ∧ expr.Fits limit := by
  constructor
  · intro answered
    have start : State.Fits limit (.value []) := trivial
    obtain ⟨fits, written⟩ := State.run_ok start answered
    exact ⟨written.symm, fits⟩
  · rintro ⟨written, fits⟩
    have taken := reads limit place expr [] tokens [] written fits (by simp [NoOpening])
    rw [List.append_nil] at taken
    rw [taken]
    rfl

/-- Expressions without empty comments that are written alike are the same. -/
theorem tokens_injective {first second : TypeExpr} (same : first.tokens = second.tokens)
    (firstComments : first.NoEmptyComment) (secondComments : second.NoEmptyComment) :
    first = second := by
  -- A limit that both are within, and their tokens at any places.
  let limit := max first.depth second.depth
  let placed := first.tokens.map fun token => Token.Placed.mk token .start
  have kinds : placed.map Token.Placed.token = first.tokens := by
    simp [placed, Function.comp_def]
  have readsFirst : (State.value []).run limit .start placed = .ok first :=
    run_eq_ok_iff.2 ⟨kinds, firstComments, Nat.le_max_left _ _⟩
  have readsSecond : (State.value []).run limit .start placed = .ok second :=
    run_eq_ok_iff.2 ⟨kinds.trans same, secondComments, Nat.le_max_right _ _⟩
  rw [readsFirst] at readsSecond
  exact Except.ok.inj readsSecond

/-- **The reader accepts exactly its grammar within the depth limit**, and the grammar is
unambiguous: of the expressions without empty comments at most one is written by given tokens. -/
theorem ofTokens_eq_ok_iff_written (maxDepth : Nat) (place : Position)
    (tokens : List Token.Placed) :
    (∀ expr, ofTokens maxDepth place tokens = .ok expr ↔
      tokens.map Token.Placed.token = expr.tokens ∧ expr.NoEmptyComment ∧
        expr.depth ≤ min maxDepth 256) ∧
    ∀ first second : TypeExpr,
      tokens.map Token.Placed.token = first.tokens ∧ first.NoEmptyComment →
      tokens.map Token.Placed.token = second.tokens ∧ second.NoEmptyComment →
      first = second := by
  refine ⟨fun expr => ?_, ?_⟩
  · rw [ofTokens, run_eq_ok_iff]
    constructor
    · rintro ⟨written, comments, depth⟩
      exact ⟨written, comments, depth⟩
    · rintro ⟨written, comments, depth⟩
      exact ⟨written, comments, depth⟩
  · rintro first second ⟨firstWritten, firstComments⟩ ⟨secondWritten, secondComments⟩
    exact tokens_injective (firstWritten.symm.trans secondWritten) firstComments secondComments

end InputDocs.TypeExpr

import InputDocs.Proofs.Token.Sequence
import InputDocs.Proofs.TypeExpr.Grammar
import InputDocs.TypeExpr.Signature

/-!
# Proofs.TypeExpr.SignatureRoundTrip -- a signature reads as what it shows

The signature of an expression that was read from some text is itself a text that can be read, and
what it reads as is the expression without the object literals among its arguments
(`parse_signature`). Nothing in the argument looks into the text the expression came from. Two
facts about it are enough:

* its words, numbers and strings are lexemes, because they were scanned (`Spelled`);
* it fits the depth limit, because it was read (`Fits`).

Both are kept when object literals are left out (`Spelled.pruned`, `fits_pruned`), so what remains
is the round trip of an expression without object literals. Its signature is put together from
the texts of its tokens and from blanks after commas (`lexes_signature`), and a leaf is always
followed by a comma, a closing parenthesis or the end: none of them lets a word or number go on.
-/

namespace InputDocs.TypeExpr

set_option autoImplicit false

/-! ## Without object literals -/

/-- No object literal stands anywhere in the expression. -/
inductive ObjectFree : TypeExpr → Prop
  | call (name : String) {arguments : List TypeExpr}
      (each : ∀ argument ∈ arguments, ObjectFree argument) : ObjectFree (call name arguments)
  | word (name : String) : ObjectFree (word name)
  | number (text : String) : ObjectFree (number text)
  | quoted (text : String) : ObjectFree (quoted text)

theorem ObjectFree.exists_signature {expr : TypeExpr} (free : expr.ObjectFree) :
    ∃ flat, expr.signature = some flat := by
  cases free with
  | _ => exact ⟨_, by rw [signature]⟩

/-- The arguments that are left are those with a signature. -/
theorem prunedArguments_eq (arguments : List TypeExpr) :
    prunedArguments arguments =
      (arguments.filter fun argument => argument.signature.isSome).map pruned := by
  induction arguments with
  | nil => simp [prunedArguments]
  | cons first rest ih =>
      cases first <;> simp [prunedArguments, List.filter_cons, signature, ih]

theorem mem_prunedArguments {arguments : List TypeExpr} {argument : TypeExpr} :
    argument ∈ prunedArguments arguments ↔
      ∃ original ∈ arguments, original.signature.isSome = true ∧ original.pruned = argument := by
  simp only [prunedArguments_eq, List.mem_map, List.mem_filter, and_assoc]

/-- What has a signature has no object literal left in it when pruned. -/
theorem objectFree_pruned {expr : TypeExpr} (shown : expr.signature.isSome = true) :
    expr.pruned.ObjectFree := by
  induction expr using nested_induction with
  | call name arguments each =>
      refine .call name ?_
      intro argument left
      obtain ⟨original, member, shown, rfl⟩ := mem_prunedArguments.1 left
      exact each original member shown
  | object properties => simp at shown
  | word name => exact .word name
  | number text => exact .number text
  | quoted text => exact .quoted text

theorem pruned_of_objectFree {expr : TypeExpr} (free : expr.ObjectFree) : expr.pruned = expr := by
  induction free with
  | @call name arguments free each =>
      have allShown : ∀ argument ∈ arguments, argument.signature.isSome = true := by
        intro argument member
        obtain ⟨flat, shown⟩ := (free argument member).exists_signature
        rw [shown, Option.isSome_some]
      rw [pruned, prunedArguments_eq, List.filter_eq_self.2 allShown,
        List.map_congr_left each, List.map_id']
  | _ => rfl

/-- Leaving out arguments makes nothing deeper. -/
theorem fits_pruned {room : Nat} {expr : TypeExpr} (fits : expr.Fits room) :
    expr.pruned.Fits room := by
  induction expr using nested_induction generalizing room with
  | call name arguments each =>
      obtain ⟨opens, fits⟩ := fits_call.1 fits
      refine fits_call.2 ⟨opens, ?_⟩
      intro argument left
      obtain ⟨original, member, _, rfl⟩ := mem_prunedArguments.1 left
      exact each original member (fits original member)
  | _ => exact fits

/-! ## Lexemes -/

/-- Every token of the expression is a lexeme of its class. -/
def Spelled (expr : TypeExpr) : Prop :=
  ∀ token ∈ expr.tokens, token.IsLexeme

theorem forall_mem_argumentTokens {arguments : List TypeExpr} :
    (∀ token ∈ argumentTokens arguments, token.IsLexeme) ↔
      ∀ argument ∈ arguments, argument.Spelled := by
  induction arguments with
  | nil => simp [argumentTokens]
  | cons first rest ih =>
      rw [List.forall_mem_cons, ← ih]
      cases rest with
      | nil => simp [argumentTokens, Spelled]
      | cons second others =>
          rw [argumentTokens_cons first (List.cons_ne_nil second others), List.forall_mem_append,
            List.forall_mem_cons]
          exact and_congr_right fun _ => and_iff_right trivial

theorem spelled_call {name : String} {arguments : List TypeExpr} :
    (call name arguments).Spelled ↔
      (Token.word name).IsLexeme ∧ ∀ argument ∈ arguments, argument.Spelled := by
  rw [Spelled, tokens, List.forall_mem_cons, List.forall_mem_cons, List.forall_mem_append,
    forall_mem_argumentTokens]
  constructor
  · rintro ⟨lexeme, _, spelled, _⟩
    exact ⟨lexeme, spelled⟩
  · rintro ⟨lexeme, spelled⟩
    exact ⟨lexeme, trivial, spelled, List.forall_mem_singleton.2 trivial⟩

/-- Leaving out arguments leaves lexemes. -/
theorem Spelled.pruned {expr : TypeExpr} (spelled : expr.Spelled) : expr.pruned.Spelled := by
  induction expr using nested_induction with
  | call name arguments each =>
      obtain ⟨lexeme, spelled⟩ := spelled_call.1 spelled
      refine spelled_call.2 ⟨lexeme, ?_⟩
      intro argument left
      obtain ⟨original, member, _, rfl⟩ := mem_prunedArguments.1 left
      exact each original member (spelled original member)
  | _ => exact spelled

/-! ## The text of a signature -/

/-- What follows an argument or a whole signature: nothing, a comma or a closing parenthesis. -/
def Parted (more : List Char) : Prop :=
  ∀ c ∈ more.head?, c = ',' ∨ c = ')'

theorem parted_cons {c : Char} (parts : c = ',' ∨ c = ')') (more : List Char) :
    Parted (c :: more) := by
  intro head same
  rw [List.head?_cons, Option.mem_some_iff] at same
  rw [← same]
  exact parts

theorem Parted.word_stops {more : List Char} (parted : Parted more) (name : String) :
    (Token.word name).Stops more := by
  intro c head
  rcases parted c head with rfl | rfl <;> decide

theorem Parted.number_stops {more : List Char} (parted : Parted more) (text : String) :
    (Token.number text).Stops more := by
  refine ⟨?_, .inr ?_⟩
  · intro c head
    rcases parted c head with rfl | rfl <;> decide
  · rintro c rest rfl
    rcases parted '.' rfl with same | same <;> exact absurd same (by decide)

/-- The signature reads as the tokens of the expression, before whatever may follow it. -/
def Shows (expr : TypeExpr) : Prop :=
  ∀ flat, expr.signature = some flat → ∀ more kinds, Parted more → Token.Lexes more kinds →
    Token.Lexes (flat.toList ++ more) (expr.tokens ++ kinds)

theorem shows_leaf {expr : TypeExpr} {token : Token} (spelled : expr.Spelled)
    (written : expr.tokens = [token]) (shown : expr.signature = some token.text)
    (stops : ∀ more, Parted more → token.Stops more) : expr.Shows := by
  intro flat flatShown more kinds parted lexes
  obtain rfl : token.text = flat := Option.some_inj.1 (shown.symm.trans flatShown)
  have lexeme : token.IsLexeme := spelled token (by simp [written])
  rw [written]
  exact .token lexeme (stops more parted) lexes

/-- The signatures of arguments read as the tokens of the arguments, commas included. -/
theorem lexes_arguments {arguments : List TypeExpr}
    (free : ∀ argument ∈ arguments, argument.ObjectFree)
    (each : ∀ argument ∈ arguments, argument.Shows) {more : List Char} {kinds : List Token}
    (parted : Parted more) (lexes : Token.Lexes more kinds) :
    Token.Lexes ((", ".intercalate (signatures arguments)).toList ++ more)
      (argumentTokens arguments ++ kinds) := by
  induction arguments with
  | nil => exact lexes
  | cons first rest ih =>
      obtain ⟨firstFree, restFree⟩ := List.forall_mem_cons.1 free
      obtain ⟨firstShows, restShows⟩ := List.forall_mem_cons.1 each
      obtain ⟨flat, shown⟩ := firstFree.exists_signature
      have texts : signatures (first :: rest) = flat :: signatures rest := by
        rw [signatures, shown]
      cases rest with
      | nil =>
          rw [texts, signatures, String.intercalate_singleton, argumentTokens]
          exact firstShows flat shown more kinds parted lexes
      | cons second others =>
          have restTexts : signatures (second :: others) ≠ [] := by
            obtain ⟨secondFlat, secondShown⟩ :=
              (restFree second List.mem_cons_self).exists_signature
            rw [signatures, secondShown]
            exact List.cons_ne_nil _ _
          have restLexes := ih restFree restShows
          rw [texts, String.intercalate_cons_of_ne_nil restTexts, String.toList_append,
            String.toList_append, List.append_assoc, List.append_assoc,
            argumentTokens_cons first (List.cons_ne_nil second others), List.append_assoc]
          exact firstShows flat shown _ _ (parted_cons (.inl rfl) _)
            (.mark rfl (.space rfl restLexes))

/-- The signature of an expression of lexemes without object literals reads as its tokens. -/
theorem ObjectFree.shows {expr : TypeExpr} (free : expr.ObjectFree) (spelled : expr.Spelled) :
    expr.Shows := by
  induction free with
  | @call name arguments free each =>
      intro flat shown more kinds parted lexes
      obtain ⟨lexeme, spelled⟩ := spelled_call.1 spelled
      have argumentsShow : ∀ argument ∈ arguments, argument.Shows :=
        fun argument member => each argument member (spelled argument member)
      rw [signature, Option.some_inj] at shown
      have inside := lexes_arguments free argumentsShow (parted_cons (.inr rfl) more)
        (.mark rfl lexes)
      have opened : (Token.word name).Stops
          ('(' :: ((", ".intercalate (signatures arguments)).toList ++ ')' :: more)) := by
        intro c head
        obtain rfl := Option.some_inj.1 head
        decide
      have whole := Token.Lexes.token lexeme opened (.mark rfl inside)
      rw [← shown, tokens]
      simpa [Token.text] using whole
  | word name => exact shows_leaf spelled rfl rfl fun _ parted => parted.word_stops name
  | number text => exact shows_leaf spelled rfl rfl fun _ parted => parted.number_stops text
  | quoted text => exact shows_leaf spelled rfl rfl fun _ _ => trivial

/-! ## The round trip -/

/-- What a whole text reads as, in terms of its tokens. -/
theorem parse_eq_ok_iff {maxDepth : Nat} {text : String} {expr : TypeExpr} :
    parse maxDepth text = .ok expr ↔
      ∃ placed, Token.tokenize text = .ok placed ∧
        placed.map Token.Placed.token = expr.tokens ∧ expr.Fits (min maxDepth greatestDepth) := by
  unfold parse
  constructor
  · intro answered
    split at answered
    · cases answered
    · rename_i placed read
      exact ⟨placed, read, run_eq_ok_iff.1 answered⟩
  · rintro ⟨placed, read, written⟩
    rw [read]
    exact run_eq_ok_iff.2 written

/-- **A signature reads as what it shows.** Whatever text an expression was read from, its
signature is read under the same limit as the expression without the object literals among its
arguments, which has the same signature. So taking the signature of what a text reads as is
idempotent, and an expression without object literals is read back itself. -/
theorem parse_signature {maxDepth : Nat} {text flat : String} {expr : TypeExpr}
    (answered : parse maxDepth text = .ok expr) (shown : expr.signature = some flat) :
    parse maxDepth flat = .ok expr.pruned ∧ expr.pruned.signature = some flat ∧
      (parse maxDepth flat).toOption.bind signature = some flat ∧
      (expr.ObjectFree → parse maxDepth flat = .ok expr) := by
  obtain ⟨placed, read, written, fits⟩ := parse_eq_ok_iff.1 answered
  have spelled : expr.Spelled := by
    intro token member
    rw [← written] at member
    obtain ⟨original, among, rfl⟩ := List.mem_map.1 member
    exact Token.tokenizeFrom_isLexeme read original among
  have free : expr.pruned.ObjectFree := objectFree_pruned (by rw [shown, Option.isSome_some])
  have prunedShown : expr.pruned.signature = some flat := (signature_pruned expr).trans shown
  have back : parse maxDepth flat = .ok expr.pruned := by
    have lexes := free.shows spelled.pruned flat prunedShown [] [] (by simp [Parted]) .nil
    rw [List.append_nil, List.append_nil] at lexes
    obtain ⟨flatPlaced, flatRead, flatWritten⟩ := lexes .start
    exact parse_eq_ok_iff.2 ⟨flatPlaced, flatRead, flatWritten, fits_pruned fits⟩
  refine ⟨back, prunedShown, ?_, ?_⟩
  · rw [back]
    exact prunedShown
  · intro free
    rw [back, pruned_of_objectFree free]

/-- An object literal and a string with a comma in it, written with other spacing. -/
theorem parse_signature_map :
    parse 64 "map(object(\x7b a = any \x7d) ,\"x, y\")" =
        .ok (.call "map" [.call "object" [.object [⟨none, "a", .word "any"⟩]],
          .quoted "\"x, y\""]) ∧
      parse 64 "map(object(), \"x, y\")" =
        .ok (.call "map" [.call "object" [], .quoted "\"x, y\""]) := by
  -- The scanner recurses on the length of the text, which `rfl` alone does not unfold.
  have answered : parse 64 "map(object(\x7b a = any \x7d) ,\"x, y\")" =
      .ok (.call "map" [.call "object" [.object [⟨none, "a", .word "any"⟩]],
        .quoted "\"x, y\""]) := by
    with_unfolding_all rfl
  exact ⟨answered, (parse_signature answered rfl).1⟩

end InputDocs.TypeExpr

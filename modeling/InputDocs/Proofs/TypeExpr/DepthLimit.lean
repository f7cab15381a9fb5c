import InputDocs.Proofs.Token.Places
import InputDocs.Proofs.TypeExpr.Nesting

/-!
# Proofs.TypeExpr.DepthLimit -- what a lower depth limit changes

Two runs over one text, under two limits, are the same run as long as nothing is entered at the
level after the lower limit. Where something is, the lower limit answers the place at which it
begins, and the higher one goes on, so that whatever error it may find stands behind that place.

`openings` lists what begins in some tokens, each with its level and its place; `State.taken` are
the tokens a run takes before it refuses one, so the openings among them are what the run enters
(`entered`). `State.run_limits` is the induction over two runs at once. What one run does with a
token is said once (`State.run_form`), and from it follows that openings begin one after the other
(`State.openings_ascending`) and before any error (`State.opening_lt_error`). `parse_limits` puts
this together for whole texts.
-/

namespace InputDocs.TypeExpr

set_option autoImplicit false

variable {limit level : Nat} {last : Option Position} {place : Position}
  {tokens : List Token.Placed}

/-! ## Openings -/

/-- Where a call or an object literal begins, and its level; the outermost has level 1. -/
structure Opening where
  level : Nat
  place : Position
  deriving DecidableEq, Repr

/-- What begins in tokens, after others with `level` open calls and object literals and the last
of them at `last`. -/
def openings : Nat → Option Position → List Token.Placed → List Opening
  | _, _, [] => []
  | level, last, token :: rest =>
    (token.opens? last).toList.map (⟨level + 1, ·⟩) ++
      openings (token.token.levelAfter level) (some token.position) rest

/-- The tokens before the first one that is refused. -/
def State.taken (limit : Nat) : State → List Token.Placed → List Token.Placed
  | _, [] => []
  | state, token :: rest =>
    match state.step limit token with
    | .ok next => token :: next.taken limit rest
    | .error _ => []

/-- What the reader enters in a text, in the order of the text. -/
def entered (maxDepth : Nat) (text : String) : List Opening :=
  match Token.tokenize text with
  | .error _ => []
  | .ok tokens => openings 0 none ((State.value []).taken (min maxDepth greatestDepth) tokens)

theorem openings_cons_of_plain {token : Token.Placed} (plain : token.opens? last = none)
    (rest : List Token.Placed) : openings level last (token :: rest) =
      openings (token.token.levelAfter level) (some token.position) rest := by
  rw [openings, plain]
  rfl

theorem openings_cons_of_opens {token : Token.Placed} (begins : token.opens? last = some place)
    (rest : List Token.Placed) : openings level last (token :: rest) =
      ⟨level + 1, place⟩ ::
        openings (token.token.levelAfter level) (some token.position) rest := by
  rw [openings, begins]
  rfl

theorem levelAfter_le_of_plain {token : Token.Placed} (plain : token.opens? last = none) :
    token.token.levelAfter level ≤ level := by
  obtain ⟨token, position⟩ := token
  cases token with
  | openParen | openBrace => cases plain
  | closeParen | closeBrace => exact Nat.sub_le level 1
  | _ => exact Nat.le_refl level

theorem place_of_mem_openings {opening : Opening} (among : opening ∈ openings level last tokens) :
    last = some opening.place ∨ ∃ token ∈ tokens, opening.place = token.position := by
  induction tokens generalizing level last with
  | nil => exact absurd among List.not_mem_nil
  | cons token rest ih =>
      rcases List.mem_append.1 among with own | later
      · obtain ⟨place, begins, rfl⟩ := List.mem_map.1 own
        refine (Token.Placed.opens?_place (Option.mem_toList.1 begins)).imp_right ?_
        exact fun same => ⟨token, List.mem_cons_self, same⟩
      · rcases ih later with own | ⟨other, member, same⟩
        · exact Or.inr ⟨token, List.mem_cons_self, (Option.some.inj own).symm⟩
        · exact Or.inr ⟨other, List.mem_cons_of_mem token member, same⟩

/-! ## Tokens that are taken -/

theorem State.taken_of_step {state next : State} {token : Token.Placed}
    (stepped : state.step limit token = .ok next) (rest : List Token.Placed) :
    state.taken limit (token :: rest) = token :: next.taken limit rest := by
  rw [State.taken, stepped]

theorem State.taken_of_refused {state : State} {token : Token.Placed} {error : ParseError}
    (refused : state.step limit token = .error error) (rest : List Token.Placed) :
    state.taken limit (token :: rest) = [] := by
  rw [State.taken, refused]

theorem State.taken_subset (limit : Nat) (state : State) (tokens : List Token.Placed) :
    state.taken limit tokens ⊆ tokens := by
  induction tokens generalizing state with
  | nil => exact List.nil_subset _
  | cons token rest ih =>
      cases stepped : state.step limit token with
      | ok next =>
          rw [State.taken_of_step stepped]
          exact List.cons_subset_cons token (ih next)
      | error refusal =>
          rw [State.taken_of_refused stepped]
          exact List.nil_subset _

/-- A token that is taken opens the same wherever the state agrees with the token before. -/
theorem State.opens?_congr {state next : State} {other : Option Position} {token : Token.Placed}
    (here : state.At level last) (there : state.At level other)
    (stepped : state.step limit token = .ok next) : token.opens? last = token.opens? other := by
  obtain ⟨token, position⟩ := token
  cases token with
  | openParen =>
      cases state with
      | word name begins stack => rw [here.pending begins rfl, there.pending begins rfl]
      | settled after => cases after <;> cases stepped
      | _ => cases stepped
  | _ => rfl

theorem State.openings_taken_congr {state : State} {other : Option Position}
    (here : state.At level last) (there : state.At level other) (tokens : List Token.Placed) :
    openings level last (state.taken limit tokens) =
      openings level other (state.taken limit tokens) := by
  cases tokens with
  | nil => rfl
  | cons token rest =>
      cases stepped : state.step limit token with
      | error refusal => rw [State.taken_of_refused stepped, openings, openings]
      | ok next =>
          rw [State.taken_of_step stepped, openings, openings,
            State.opens?_congr here there stepped]

/-! ## Two runs at once -/

/-- A run with a lower limit is the run with the higher one, or ends where the first opening
behind the lower limit begins. -/
theorem State.run_limits {state : State} {m n : Nat} (lower : m < n) (here : state.At level last)
    (within : level ≤ m) (place : Position) (tokens : List Token.Placed) :
    let first := (openings level last (state.taken n tokens)).find? (·.level = m + 1)
    (first = none → state.run m place tokens = state.run n place tokens) ∧
    ∀ opening, first = some opening →
      state.run m place tokens = .error (.tooDeep opening.place m) := by
  induction tokens generalizing state level last with
  | nil => exact ⟨fun _ => rfl, nofun⟩
  | cons token rest ih =>
      cases State.step_form here token with
      | goes same plain on =>
          rw [State.taken_of_step (same n), openings_cons_of_plain plain,
            State.run_cons_of_step place rest (same m), State.run_cons_of_step place rest (same n)]
          exact ih on (Nat.le_trans (levelAfter_le_of_plain plain) within)
      | @opens begin next same begins deeper on =>
          have higher : state.step n token = .ok next :=
            (same n).trans (if_pos (Nat.lt_of_le_of_lt within lower))
          rw [State.taken_of_step higher, openings_cons_of_opens begins, deeper]
          by_cases room : level < m
          · have other : level + 1 ≠ m + 1 := by omega
            have goes : state.step m token = .ok next := (same m).trans (if_pos room)
            rw [List.find?_cons_of_neg (by simpa using other),
              State.run_cons_of_step place rest goes, State.run_cons_of_step place rest higher]
            exact ih (on _) room
          · obtain rfl : level = m := by omega
            rw [List.find?_cons_of_pos (by simp)]
            refine ⟨nofun, ?_⟩
            rintro opening ⟨⟩
            rw [State.run_cons, same, if_neg room]
            rfl
      | refuses same =>
          rw [State.taken_of_refused (same n), State.run_cons, State.run_cons, same, same]
          exact ⟨fun _ => rfl, nofun⟩

/-! ## The order of places -/

/-- The place of the token before, the places of the tokens and that of their end go up. -/
def Ascending (last : Option Position) (tokens : List Token.Placed) (place : Position) : Prop :=
  (last.toList ++ tokens.map (·.position) ++ [place]).Pairwise (·.offset < ·.offset)

theorem Ascending.tail {token : Token.Placed} (up : Ascending last (token :: tokens) place) :
    Ascending (some token.position) tokens place := by
  refine List.Pairwise.sublist ?_ up
  simp

theorem Ascending.lt {start : Position} (up : Ascending (some start) tokens place) :
    (∀ later ∈ tokens, start.offset < later.position.offset) ∧ start.offset < place.offset := by
  have above := (List.pairwise_cons.1 up).1
  refine ⟨fun later member => above _ (List.mem_append_left _ ?_),
    above _ (List.mem_append_right _ (List.mem_singleton_self place))⟩
  exact List.mem_map_of_mem member

/-- What a token opens begins before all that comes after the token. -/
theorem Ascending.opens_lt {token : Token.Placed} {start : Position}
    (up : Ascending last (token :: tokens) place) (begins : token.opens? last = some start) :
    (∀ later ∈ tokens, start.offset < later.position.offset) ∧ start.offset < place.offset := by
  rcases Token.Placed.opens?_place begins with rfl | rfl
  · exact up.lt.imp_left fun above later member => above later (List.mem_cons_of_mem token member)
  · exact up.tail.lt

/-! ## One run -/

/-- What a run does with its first token: it goes on, it enters what the
token opens, or it stops there. -/
inductive RunForm (limit level : Nat) (last : Option Position) (place : Position) (state : State)
    (token : Token.Placed) (rest : List Token.Placed) : Prop
  | goes {next : State} (here : next.At (token.token.levelAfter level) (some token.position))
      (runs : state.run limit place (token :: rest) = next.run limit place rest)
      (opened : openings level last (state.taken limit (token :: rest)) =
        openings (token.token.levelAfter level) (some token.position) (next.taken limit rest))
  | enters {start : Position} {next : State} (begins : token.opens? last = some start)
      (here : ∀ before, next.At (level + 1) before)
      (runs : state.run limit place (token :: rest) = next.run limit place rest)
      (opened : openings level last (state.taken limit (token :: rest)) =
        ⟨level + 1, start⟩ :: openings (level + 1) (some token.position) (next.taken limit rest))
  | stops (opened : openings level last (state.taken limit (token :: rest)) = [])

theorem State.run_form {state : State} (here : state.At level last) (limit : Nat)
    (place : Position) (token : Token.Placed) (rest : List Token.Placed) :
    RunForm limit level last place state token rest := by
  cases State.step_form here token with
  | goes same plain on =>
      refine .goes on (State.run_cons_of_step place rest (same limit)) ?_
      rw [State.taken_of_step (same limit), openings_cons_of_plain plain]
  | opens same begins deeper on =>
      by_cases room : level < limit
      · have stepped := (same limit).trans (if_pos room)
        refine .enters begins on (State.run_cons_of_step place rest stepped) ?_
        rw [State.taken_of_step stepped, openings_cons_of_opens begins, deeper]
      · refine .stops ?_
        rw [State.taken_of_refused ((same limit).trans (if_neg room)), openings]
  | refuses same =>
      refine .stops ?_
      rw [State.taken_of_refused (same limit), openings]

/-- Openings that are entered begin one after the other. -/
theorem State.openings_ascending {state : State} (here : state.At level last)
    (up : Ascending last tokens place) : (openings level last (state.taken limit tokens)).Pairwise
      (·.place.offset < ·.place.offset) := by
  induction tokens generalizing state level last with
  | nil => exact .nil
  | cons token rest ih =>
      cases State.run_form here limit place token rest with
      | goes on runs opened =>
          rw [opened]
          exact ih on up.tail
      | @enters start next begins on runs opened =>
          rw [opened]
          refine List.pairwise_cons.2 ⟨fun later among => ?_, ih (on _) up.tail⟩
          -- nothing waits after an opening, so the token before may be left out
          rw [State.openings_taken_congr (on _) (on none)] at among
          rcases place_of_mem_openings among with own | ⟨other, member, stands⟩
          · cases own
          · rw [stands]
            exact (up.opens_lt begins).1 other (State.taken_subset limit next rest member)
      | stops opened =>
          rw [opened]
          exact .nil

/-- A run that fails does so behind all that it entered. -/
theorem State.opening_lt_error {state : State} {error : ParseError} {opening : Opening}
    (here : state.At level last) (up : Ascending last tokens place)
    (failed : state.run limit place tokens = .error error)
    (among : opening ∈ openings level last (state.taken limit tokens)) :
    opening.place.offset < error.position.offset := by
  induction tokens generalizing state level last with
  | nil => exact absurd among List.not_mem_nil
  | cons token rest ih =>
      cases State.run_form here limit place token rest with
      | goes on runs opened =>
          rw [opened] at among
          rw [runs] at failed
          exact ih on up.tail failed among
      | @enters start next begins on runs opened =>
          rw [opened] at among
          rw [runs] at failed
          rcases List.mem_cons.1 among with rfl | later
          · obtain ⟨above, below⟩ := up.opens_lt begins
            exact (State.run_error_form (on none) failed).position_of
              (P := fun position => start.offset < position.offset) nofun above below
          · exact ih (on _) up.tail failed later
      | stops opened =>
          rw [opened] at among
          exact absurd among List.not_mem_nil

/-! ## Whole texts -/

theorem ascending_of_tokenize {text : String} {tokens : List Token.Placed}
    (scanned : Token.tokenize text = .ok tokens) :
    Ascending none tokens (.after text.toList) := by
  have up := (Token.laidOut_of_tokenize scanned).ascending
  have same : tokens.map (·.position.offset) ++ [(Position.after text.toList).offset] =
      (tokens.map (·.position) ++ [Position.after text.toList]).map (·.offset) := by simp
  rw [List.nil_append, same] at up
  exact List.pairwise_map.1 up

theorem parse_of_tokenize {maxDepth : Nat} {text : String} (within : maxDepth ≤ greatestDepth)
    (scanned : Token.tokenize text = .ok tokens) :
    parse maxDepth text = (State.value []).run maxDepth (.after text.toList) tokens := by
  rw [parse, scanned]
  exact congrArg (State.run · _ _ tokens) (Nat.min_eq_left within)

theorem entered_of_tokenize {maxDepth : Nat} {text : String} (within : maxDepth ≤ greatestDepth)
    (scanned : Token.tokenize text = .ok tokens) :
    entered maxDepth text = openings 0 none ((State.value []).taken maxDepth tokens) := by
  rw [entered, scanned]
  exact congrArg (fun limit => openings 0 none (State.taken limit _ tokens))
    (Nat.min_eq_left within)

/-- **A lower depth limit changes a result to the report that it is exceeded, or not at all.** Two
limits give the same result unless the higher one enters something at the level after the lower
one. Then the lower one reports the place where the first such begins, which is before any error
that the higher one finds. Beyond the greatest limit all give the same result. -/
theorem parse_limits (text : String) :
    (∀ m n, m < n → n ≤ greatestDepth →
      (entered n text).Pairwise (·.place.offset < ·.place.offset) ∧
      ((entered n text).find? (·.level = m + 1) = none → parse m text = parse n text) ∧
      ∀ opening, (entered n text).find? (·.level = m + 1) = some opening →
        parse m text = .error (.tooDeep opening.place m) ∧
        ∀ error, parse n text = .error error → opening.place.offset < error.position.offset) ∧
    ∀ depth, greatestDepth < depth → parse depth text = parse greatestDepth text := by
  constructor
  · intro m n lower within
    cases scanned : Token.tokenize text with
    | error error =>
        have empty : entered n text = [] := by rw [entered, scanned]
        rw [empty, parse, parse, scanned]
        exact ⟨.nil, fun _ => rfl, nofun⟩
    | ok tokens =>
        have up := ascending_of_tokenize scanned
        obtain ⟨alike, stops⟩ := State.run_limits lower State.at_start (Nat.zero_le m)
          (.after text.toList) tokens
        rw [parse_of_tokenize (Nat.le_trans (Nat.le_of_lt lower) within) scanned,
          parse_of_tokenize within scanned, entered_of_tokenize within scanned]
        refine ⟨State.openings_ascending State.at_start up, alike, fun opening first => ?_⟩
        refine ⟨stops opening first, fun error failed => ?_⟩
        exact State.opening_lt_error State.at_start up failed (List.mem_of_find?_eq_some first)
  · intro depth beyond
    have same : min depth greatestDepth = min greatestDepth greatestDepth := by omega
    rw [parse, parse]
    simp only [ofTokens, same]

/-- A call in a call, and in it an object literal in which a sign of equality is missing. -/
def unequal : String := "f(g(\x7b a = b c"

theorem unequal_limits :
    (1 < 3 ∧ 3 ≤ greatestDepth ∧
      (entered 3 unequal).find? (·.level = 1 + 1) = some ⟨2, ⟨2, 1, 3⟩⟩) ∧
    parse 1 unequal = .error (.tooDeep ⟨2, 1, 3⟩ 1) ∧
    parse 3 unequal = .error (.unexpected ⟨13, 1, 14⟩ .equalsSign none) ∧
    parse 300 unequal = parse greatestDepth unequal := by
  have within : 3 ≤ greatestDepth := by decide
  have first : (entered 3 unequal).find? (·.level = 1 + 1) = some ⟨2, ⟨2, 1, 3⟩⟩ := by
    with_unfolding_all rfl
  have higher : parse 3 unequal = .error (.unexpected ⟨13, 1, 14⟩ .equalsSign none) := by
    with_unfolding_all rfl
  obtain ⟨limits, beyond⟩ := parse_limits unequal
  obtain ⟨ordered, alike, stops⟩ := limits 1 3 (by decide) within
  exact ⟨⟨by decide, within, first⟩, (stops _ first).1, higher, beyond 300 (by decide)⟩

end InputDocs.TypeExpr

import InputDocs.Proofs.Doc.Normal
import Mathlib.Algebra.Ring.Parity
import Mathlib.Data.List.DropRight

/-!
# Proofs.Doc.Pattern -- a pattern between slashes and its samples

`regex` takes a pattern between slashes and samples after it. A slash belongs to the pattern if a
backslash escapes it, and of a run of backslashes every second one is itself escaped. So a pattern
can stand between slashes if each slash in it comes after an odd run and the pattern itself ends
with an even one (`Enclosable`). The reader goes through the text with one bit, which says whether
the next character is escaped; it is the parity of the run before it (`escapedAfter_iff`), and
hence the reader splits off exactly the enclosable patterns (`splitPattern_eq_some_iff`).

A sample in quotes may be any text without quotes, also the empty one or one with white space
(`splitWords_quotedWords`), and no sample that is read has a quote (`quote_notMem_splitWords`).
-/

namespace InputDocs.Directive

set_option autoImplicit false

open Unicode (isBlank trim)

/-! ## Runs of backslashes -/

/-- The number of backslashes at the end of a text. -/
def backslashes (text : List Char) : Nat := (text.rtakeWhile (· = '\\')).length

/-- Whether the character after the text is escaped, where `escaped` says it of the first one. -/
def escapedAfter (escaped : Bool) (text : List Char) : Bool :=
  text.foldl (fun escaped c => c = '\\' && !escaped) escaped

/-- A character is escaped after an odd run of backslashes. -/
theorem escapedAfter_iff {text : List Char} :
    escapedAfter false text = true ↔ Odd (backslashes text) := by
  induction text using List.reverseRecOn with
  | nil => simp [escapedAfter, backslashes]
  | append_singleton text c ih =>
      have step : escapedAfter false (text ++ [c]) = (c = '\\' && !escapedAfter false text) := by
        rw [escapedAfter, List.foldl_append]
        rfl
      by_cases backslash : c = '\\'
      · have longer : backslashes (text ++ [c]) = backslashes text + 1 := by
          simp [backslashes, backslash]
        rw [step, longer, Nat.odd_add_one, ← ih]
        simp [backslash]
      · have none : backslashes (text ++ [c]) = 0 := by
          simp [backslashes, backslash]
        rw [step, none]
        simp [backslash]

/-- The pattern can stand between slashes: every slash in it is escaped, and the one after it is
not. -/
structure Enclosable (source : List Char) : Prop where
  inside : ∀ before after, source = before ++ '/' :: after → Odd (backslashes before)
  close : Even (backslashes source)

/-! ## The pattern -/

/-- What is split off ends before the first slash that is not escaped. -/
theorem splitPattern_eq_some {escaped : Bool} {text source more : List Char} :
    splitPattern escaped text = some (source, more) ↔
      text = source ++ '/' :: more ∧
        (∀ before after, source = before ++ '/' :: after → escapedAfter escaped before = true) ∧
        escapedAfter escaped source = false := by
  induction text generalizing escaped source with
  | nil => simp [splitPattern]
  | cons c rest ih =>
      rw [splitPattern]
      by_cases closes : c = '/' ∧ (!escaped) = true
      · obtain ⟨rfl, bare⟩ := closes
        rw [Bool.not_eq_true'] at bare
        subst bare
        -- The text ends here, since a pattern that goes on would have this slash inside.
        rw [if_pos ⟨rfl, rfl⟩]
        constructor
        · rintro ⟨⟩
          exact ⟨rfl, by simp, rfl⟩
        · rintro ⟨parts, inside, -⟩
          cases source with
          | nil =>
              obtain ⟨-, rfl⟩ := List.cons.inj parts
              rfl
          | cons first source =>
              obtain ⟨rfl, -⟩ := List.cons.inj parts
              exact absurd (inside [] source rfl) Bool.false_ne_true
      -- The character belongs to the pattern, and the rest is read with the bit after it.
      · rw [if_neg closes, Option.map_eq_some_iff]
        constructor
        · rintro ⟨⟨front, after⟩, found, same⟩
          obtain ⟨rfl, rfl⟩ := Prod.mk.inj same
          obtain ⟨rfl, inside, close⟩ := ih.1 found
          refine ⟨rfl, ?_, close⟩
          intro before later parts
          cases before with
          | nil =>
              obtain ⟨rfl, -⟩ := List.cons.inj parts
              simpa [escapedAfter] using closes
          | cons first before =>
              obtain ⟨rfl, shorter⟩ := List.cons.inj parts
              exact inside before later shorter
        · rintro ⟨parts, inside, close⟩
          cases source with
          | nil =>
              obtain ⟨rfl, -⟩ := List.cons.inj parts
              exact absurd ⟨rfl, by rw [show escaped = false from close]; rfl⟩ closes
          | cons first source =>
              obtain ⟨rfl, shorter⟩ := List.cons.inj parts
              refine ⟨(source, more), ih.2 ⟨shorter, ?_, close⟩, rfl⟩
              rintro before after rfl
              exact inside (c :: before) after rfl

/-- **The patterns that are split off are those that can stand between slashes.** -/
theorem splitPattern_eq_some_iff {text source more : List Char} :
    splitPattern false text = some (source, more) ↔
      text = source ++ '/' :: more ∧ Enclosable source := by
  rw [splitPattern_eq_some]
  refine and_congr_right fun _ => ⟨fun ⟨inside, close⟩ => ⟨?_, ?_⟩, fun fits => ⟨?_, ?_⟩⟩
  · exact fun before after parts => escapedAfter_iff.1 (inside before after parts)
  · rw [← Nat.not_odd_iff_even, ← escapedAfter_iff, close]
    exact Bool.false_ne_true
  · exact fun before after parts => escapedAfter_iff.2 (fits.inside before after parts)
  · rw [← Bool.not_eq_true, escapedAfter_iff, Nat.not_odd_iff_even]
    exact fits.close

/-! ## The samples -/

/-- Words in quotes, each after a blank. -/
def quotedWords (words : List (List Char)) : List Char :=
  words.flatMap fun word => ' ' :: '"' :: (word ++ ['"'])

/-- Between quotes everything is part of the word. -/
theorem splitWords_inside {word : List Char} (plain : '"' ∉ word) (begun rest : List Char) :
    splitWords true (some begun) (word ++ '"' :: rest) =
      splitWords false (some (word.reverse ++ begun)) rest := by
  induction word generalizing begun with
  | nil => simp [splitWords]
  | cons c word ih =>
      rw [List.mem_cons, not_or] at plain
      rw [List.cons_append, splitWords, if_neg (Ne.symm plain.1), if_neg (by simp), Option.getD_some,
        ih plain.2]
      simp

/-- Words in quotes are split as they are, after a word that has begun. -/
theorem splitWords_quotedWords {words : List (List Char)} (plain : ∀ word ∈ words, '"' ∉ word)
    (begun : Option (List Char)) :
    splitWords false begun (quotedWords words) = (begun.map List.reverse).toList ++ words := by
  induction words generalizing begun with
  | nil => simp [quotedWords, splitWords]
  | cons word words ih =>
      obtain ⟨here, others⟩ := List.forall_mem_cons.1 plain
      have written : quotedWords (word :: words) =
          ' ' :: '"' :: (word ++ '"' :: quotedWords words) := by
        simp [quotedWords]
      have blank : isBlank ' ' = true := by decide
      -- The blank ends the word that has begun, and the quote begins the next one as empty.
      rw [written, splitWords, if_neg (by decide), if_pos ⟨blank, rfl⟩, splitWords, if_pos rfl]
      simp only [Bool.not_false, Option.getD_none, splitWords_inside here, List.append_nil]
      rw [ih others, Option.map_some, List.reverse_reverse]
      rfl

/-- A word that has begun without a quote ends without one. -/
theorem quote_notMem_begun {begun : Option (List Char)} (plain : '"' ∉ begun.getD []) :
    ∀ word ∈ (begun.map List.reverse).toList, '"' ∉ word := by
  cases begun with
  | none => exact nofun
  | some begun => simpa using plain

/-- Quotes are dropped, wherever they stand. -/
theorem quote_notMem_splitWords {quoted : Bool} {begun : Option (List Char)} {text : List Char}
    (plain : '"' ∉ begun.getD []) : ∀ word ∈ splitWords quoted begun text, '"' ∉ word := by
  induction text generalizing quoted begun with
  | nil => exact quote_notMem_begun plain
  | cons c rest ih =>
      rw [splitWords]
      split
      · exact ih plain
      · rename_i other
        split
        · exact List.forall_mem_append.2 ⟨quote_notMem_begun plain, ih List.not_mem_nil⟩
        · refine ih ?_
          rw [Option.getD_some, List.mem_cons, not_or]
          exact ⟨Ne.symm other, plain⟩

/-! ## Directives -/

variable {compiles : List Char → Bool}

/-- What stands between slashes and after them. -/
theorem readPattern_eq_pattern_iff {text : List Char} {source : String} {samples : List String} :
    readPattern compiles text = .pattern source samples ↔
      ∃ more, text = '/' :: (source.toList ++ '/' :: more) ∧
        compiles source.toList = true ∧ Enclosable source.toList ∧
        (splitWords false none more).map String.ofList = samples := by
  constructor
  · intro reading
    unfold readPattern at reading
    split at reading
    · split at reading
      · rename_i parted
        split at reading
        · rename_i usable
          obtain ⟨rfl, rfl⟩ := Meaning.pattern.inj reading
          rw [String.toList_ofList]
          obtain ⟨rfl, fits⟩ := splitPattern_eq_some_iff.1 parted
          exact ⟨_, rfl, usable, fits, rfl⟩
        · cases reading
      · cases reading
    · cases reading
  · rintro ⟨more, rfl, usable, fits, rfl⟩
    simp [readPattern, splitPattern_eq_some_iff.2 ⟨rfl, fits⟩, usable]

/-- The content of a pattern directive says a pattern and samples, or nothing. -/
theorem readPattern_cases (compiles : List Char → Bool) (text : List Char) :
    (∃ source samples, readPattern compiles text = .pattern source samples) ∨
      readPattern compiles text = .malformed .pattern := by
  unfold readPattern
  split
  · split
    · split
      · exact .inl ⟨_, _, rfl⟩
      · exact .inr rfl
    · exact .inr rfl
  · exact .inr rfl

/-- The content that says a pattern and samples. -/
def patternContent (source : String) (samples : List String) : List Char :=
  '/' :: (source.toList ++ '/' :: quotedWords (samples.map String.toList))

/-- Words in quotes end with a quote, if there are any. -/
theorem getLast?_quotedWords (mark : Char) (words : List (List Char)) :
    ∀ c ∈ (mark :: quotedWords words).getLast?, c = mark ∨ c = '"' := by
  intro c last
  cases words using List.reverseRecOn with
  | nil => exact .inl (Option.some_inj.1 last).symm
  | append_singleton words word =>
      have ends : mark :: quotedWords (words ++ [word]) =
          mark :: (quotedWords words ++ ' ' :: '"' :: word) ++ ['"'] := by
        simp [quotedWords]
      rw [ends, List.getLast?_concat] at last
      exact .inr (Option.some_inj.1 last).symm

/-- The content neither begins nor ends with white space, even if the last sample does. -/
theorem trim_patternContent (source : String) (samples : List String) :
    trim (patternContent source samples) = patternContent source samples := by
  have slash : isBlank '/' = false := by decide
  have quote : isBlank '"' = false := by decide
  refine Unicode.trim_eq_self_iff.2 ⟨by simp [patternContent, slash], ?_⟩
  intro c last
  rw [patternContent, ← List.cons_append,
    List.getLast?_append_of_ne_nil _ (List.cons_ne_nil _ _)] at last
  rcases getLast?_quotedWords '/' _ c last with rfl | rfl
  · exact slash
  · exact quote

theorem read_regex (content : List Char) :
    read compiles "regex" content = readPattern compiles content := by
  simp [read]

/-- **Pattern directives say what is written.** Whichever patterns compile, one that does and that
can stand between slashes is read with any samples in quotes after it, and all of them are the
arguments. Conversely the arguments of every valid pattern directive are such a pattern and samples
without quotes. -/
theorem pattern_directives (compiles : List Char → Bool) :
    (∀ (source : String) (samples : List String), compiles source.toList = true →
      Enclosable source.toList → (∀ sample ∈ samples, '"' ∉ sample.toList) →
        let meaning := read compiles "regex" (trim (patternContent source samples))
        meaning.isValid = true ∧ meaning.arguments = source :: samples) ∧
    ∀ content : String,
      let meaning := read compiles "regex" (trim content.toList)
      meaning.isValid = true →
        ∃ source samples, meaning.arguments = source :: samples ∧
          compiles source.toList = true ∧ Enclosable source.toList ∧
          ∀ sample ∈ samples, '"' ∉ sample.toList := by
  constructor
  · intro source samples usable fits plain meaning
    have words : splitWords false none (quotedWords (samples.map String.toList)) =
        samples.map String.toList := by
      rw [splitWords_quotedWords (List.forall_mem_map.2 plain)]
      rfl
    have said : meaning = .pattern source samples := by
      rw [show meaning = _ from read_regex _, trim_patternContent]
      exact readPattern_eq_pattern_iff.2 ⟨_, rfl, usable, fits, by rw [words]; simp⟩
    rw [said]
    exact ⟨rfl, rfl⟩
  · intro content meaning valid
    have read : meaning = readPattern compiles (trim content.toList) := read_regex _
    rcases readPattern_cases compiles (trim content.toList) with ⟨source, samples, said⟩ | silent
    · obtain ⟨more, _, usable, fits, rfl⟩ := readPattern_eq_pattern_iff.1 said
      refine ⟨source, _, by rw [read, said]; rfl, usable, fits, ?_⟩
      intro sample member
      obtain ⟨word, among, rfl⟩ := List.mem_map.1 member
      rw [String.toList_ofList]
      exact quote_notMem_splitWords List.not_mem_nil word among
    · rw [read, silent] at valid
      cases valid

/-- An escaped slash in the pattern and two backslashes at its end, a sample of nothing and one with
white space. -/
theorem pattern_directives_escapes :
    let source := "a\\/b\\\\"
    let samples := ["", "x \t/"]
    let content := "/a\\/b\\\\/ \"\" \"x \t/\""
    let compiles := PatternEngine.lenient.compiles
    let meaning := read compiles "regex" (trim content.toList)
    (compiles source.toList = true ∧ Enclosable source.toList ∧
      ∀ sample ∈ samples, '"' ∉ sample.toList) ∧
    content.toList = patternContent source samples ∧
    (meaning.isValid = true ∧ meaning.arguments = source :: samples) ∧
      ∃ source samples, meaning.arguments = source :: samples ∧
        compiles source.toList = true ∧ Enclosable source.toList ∧
        ∀ sample ∈ samples, '"' ∉ sample.toList := by
  intro source samples content compiles meaning
  have usable : compiles source.toList = true := rfl
  have parted : splitPattern false (source.toList ++ ['/']) = some (source.toList, []) := by decide
  have fits := (splitPattern_eq_some_iff.1 parted).2
  have plain : ∀ sample ∈ samples, '"' ∉ sample.toList := by decide
  have written : content.toList = patternContent source samples := by decide
  have said : meaning.isValid = true ∧ meaning.arguments = source :: samples := by
    have spelled := (pattern_directives compiles).1 source samples usable fits plain
    rwa [← written] at spelled
  exact ⟨⟨usable, fits, plain⟩, written, said,
    (pattern_directives compiles).2 content said.1⟩

end InputDocs.Directive

import InputDocs.Proofs.Render.Anchor
import Mathlib

/-!
# Proofs.Render.SeeLink -- references to nested types by their names

Two kinds of links lead to the table of a nested type. A row makes the anchor from the name of its
type itself (`Row.anchor`). A reference in documentation knows nothing of tables: its target is
taken for the name of a type if it looks like one, and then leads to the anchor that a heading of
this name has (`seeLink`).

For the type of an identifier both anchors are the identifier in lower case without its underscores
(`headingAnchor_typeName`). The type of a word has a name of letters and digits only, so a reference
to it has nothing of a link, an address or a path in it, and what remains is whether the name begins
with a capital letter (`seeLink_of_alphanumeric`). It always begins with one or with a digit, and so
the references agree with the rows but for the types whose names begin with a digit
(`seeLink_typeName`).
-/

namespace InputDocs

set_option autoImplicit false

/-! ## Case of ASCII -/

namespace Unicode

theorem isAlphanum_toLower (c : Char) : c.toLower.isAlphanum = c.isAlphanum := by
  by_cases capital : c.isUpper = true
  · have letter : c.isAlpha = true := Bool.or_eq_true_iff.2 (.inl capital)
    rw [Char.isAlphanum, Char.isAlphanum, Char.isAlpha_toLower_eq_isAlpha, letter, Bool.true_or,
      Bool.true_or]
  · rw [Char.toLower_eq_of_not_isUpper capital]

theorem isUpper_eq_false_of_isDigit {c : Char} (digit : c.isDigit = true) : c.isUpper = false := by
  refine Bool.eq_false_iff.2 fun capital => ?_
  have above := Token.nine_lt_of_isAlpha (Bool.or_eq_true_iff.2 (.inl capital))
  have bound := (Char.isDigit_iff_toNat.1 digit).2
  exact absurd above (Nat.not_lt_of_le bound)

variable {c : Char} {text : List Char}

/-- A capitalized word differs from the word in case alone. -/
theorem map_toLower_capitalize (ascii : ∀ c ∈ text, c.toNat < 128) :
    (capitalize text).map Char.toLower = text.map Char.toLower := by
  cases text with
  | nil => rfl
  | cons first rest =>
      have others : (rest.map Char.toLower).map Char.toLower = rest.map Char.toLower := by
        rw [List.map_map]
        exact List.map_congr_left fun c _ => Char.toLower_toLower_eq_toLower c
      rw [capitalize_of_ascii ascii, List.map_cons, Char.toLower_toUpper_eq_toLower, others,
        List.map_cons]

/-- A capitalized word does not begin with a small letter. -/
theorem isLower_eq_false_of_head_capitalize (ascii : ∀ c ∈ text, c.toNat < 128)
    (begins : c ∈ (capitalize text).head?) : c.isLower = false := by
  cases text with
  | nil => cases begins
  | cons first rest =>
      rw [capitalize_of_ascii ascii, List.head?_cons, Option.mem_some_iff] at begins
      rw [← begins, Char.isLower_toUpper_eq_false]

end Unicode

namespace Render

/-! ## The types of identifiers -/

variable {name : String}

/-- What is left of an identifier in the anchor of its type: it is in lower case and has no
underscores. -/
def identifierAnchor (name : String) : String :=
  if name.toList.all (· = '_') then "unknownobject"
  else String.ofList ((name.toList.filter (· ≠ '_')).map Char.toLower)

theorem ascii_of_identifier (identifier : IsIdentifier name) :
    ∀ c ∈ name.toList, c.toNat < 128 := by
  intro c member
  by_cases underscore : c = '_'
  · subst underscore
    decide
  · exact ascii_of_plain (plain_of_identifier identifier member underscore)

theorem ascii_of_mem_splitOn (identifier : IsIdentifier name) {part : List Char}
    (among : part ∈ name.toList.splitOn '_') : ∀ c ∈ part, c.toNat < 128 :=
  fun c inside => ascii_of_identifier identifier c (Text.mem_of_mem_splitOn among inside)

theorem typeName_ne_empty (name : String) : typeName name ≠ "" := by
  unfold typeName
  dsimp only
  split
  · decide
  · rename_i filled
    exact mt String.ofList_eq_empty_iff.1 filled

/-- The type of an identifier is the identifier without underscores, up to case. -/
theorem map_toLower_typeName (identifier : IsIdentifier name) :
    (typeName name).toList.map Char.toLower = (identifierAnchor name).toList := by
  have lowered : ((name.toList.splitOn '_').flatMap Unicode.capitalize).map Char.toLower =
      (name.toList.filter (· ≠ '_')).map Char.toLower := by
    rw [List.map_flatMap, List.flatMap_congr fun part among =>
        Unicode.map_toLower_capitalize (ascii_of_mem_splitOn identifier among),
      ← Text.flatten_splitOn, List.map_flatten, List.flatMap_def]
  -- Nothing is left of the parts exactly if there was nothing to capitalize.
  have blank : (name.toList.splitOn '_').flatMap Unicode.capitalize = [] ↔
      name.toList.all (· = '_') = true := by
    rw [← List.map_eq_nil_iff, lowered, List.map_eq_nil_iff, List.filter_eq_nil_iff]
    simp
  unfold typeName identifierAnchor
  dsimp only
  split
  · rename_i underscores
    rw [if_pos (blank.1 underscores)]
    decide
  · rename_i filled
    rw [if_neg (mt blank.2 filled), String.toList_ofList, String.toList_ofList, lowered]

/-- **The heading of an identifier's type** has the identifier in lower case as its anchor, without
underscores. -/
theorem headingAnchor_typeName (identifier : IsIdentifier name) :
    headingAnchor (typeName name) = identifierAnchor name := by
  have ascii : ∀ c ∈ (typeName name).toList, c.toNat < 128 :=
    fun c member => ascii_of_plain (plain_of_mem_typeName identifier c member)
  rw [headingAnchor_eq_iff.2 (anchorsItself_of_identifier identifier),
    Unicode.lowercase_of_ascii ascii, map_toLower_typeName identifier, String.ofList_toList]

theorem isLower_eq_false_of_head_typeName (identifier : IsIdentifier name) {c : Char}
    (begins : c ∈ (typeName name).toList.head?) : c.isLower = false := by
  unfold typeName at begins
  dsimp only at begins
  split at begins
  · obtain rfl : 'U' = c := Option.mem_some_iff.1 begins
    decide
  · rw [String.toList_ofList, List.head?_flatMap] at begins
    obtain ⟨part, among, first⟩ := List.exists_of_findSome?_eq_some begins
    exact Unicode.isLower_eq_false_of_head_capitalize (ascii_of_mem_splitOn identifier among) first

/-- The type of a word has a name of letters and digits. -/
theorem isAlphanum_of_mem_typeName (word : (Token.word name).IsLexeme) :
    ∀ c ∈ (typeName name).toList, c.isAlphanum = true := by
  -- What is a letter or a digit does not depend on case, so the anchor stands for the name.
  have letters : ∀ c ∈ (identifierAnchor name).toList, c.isAlphanum = true := by
    unfold identifierAnchor
    split
    · have checked : "unknownobject".toList.all Char.isAlphanum = true := by decide
      exact List.all_eq_true.1 checked
    · intro c member
      rw [String.toList_ofList] at member
      obtain ⟨d, among, rfl⟩ := List.mem_map.1 member
      obtain ⟨inside, other⟩ := List.mem_filter.1 among
      rw [Unicode.isAlphanum_toLower]
      refine (Bool.or_eq_true_iff.1 (Token.isWordPart_of_isWord word d inside)).resolve_right ?_
      exact fun underscore => absurd (of_decide_eq_true underscore) (of_decide_eq_true other)
  intro c member
  have lowered := List.mem_map_of_mem (f := Char.toLower) member
  rw [map_toLower_typeName (identifier_of_word word)] at lowered
  rw [← Unicode.isAlphanum_toLower]
  exact letters _ lowered

/-! ## What a reference is taken for -/

variable {text : List Char}

theorem isPrefixOf_of_notMem {mark : Char} {start : List Char} (inside : mark ∈ start)
    (absent : mark ∉ text) : start.isPrefixOf text = false :=
  Bool.eq_false_iff.2 fun stands => absent ((List.isPrefixOf_iff_prefix.1 stands).subset inside)

/-- There is no link without an opening bracket. -/
theorem holdsLink_of_notMem (absent : '[' ∉ text) : holdsLink text = false := by
  induction text with
  | nil => rfl
  | cons c rest ih =>
      rw [List.mem_cons, not_or] at absent
      rw [holdsLink, ih absent.2, decide_eq_false (Ne.symm absent.1), Bool.false_and,
        Bool.or_false]

/-- There is no address without a colon. -/
theorem holdsAddress_of_notMem (absent : ':' ∉ text) : holdsAddress text = false := by
  induction text with
  | nil => rfl
  | cons c rest ih =>
      have plain : "http://".toList.isPrefixOf (c :: rest) = false :=
        isPrefixOf_of_notMem (by decide) absent
      have secure : "https://".toList.isPrefixOf (c :: rest) = false :=
        isPrefixOf_of_notMem (by decide) absent
      have begins : startsAddress (c :: rest) = false := by
        simp only [startsAddress, List.any_cons, List.any_nil, plain, secure, Bool.false_and,
          Bool.or_false]
      rw [List.mem_cons, not_or] at absent
      rw [holdsAddress, begins, ih absent.2, Bool.or_false]

/-- There is no path without a slash. -/
theorem isPath_of_notMem (absent : '/' ∉ text) : isPath text = false := by
  refine List.any_eq_false.2 fun start among => ?_
  have slash : '/' ∈ start := by
    simp only [List.mem_cons, List.not_mem_nil, or_false] at among
    rcases among with rfl | rfl | rfl <;> decide
  rw [isPrefixOf_of_notMem slash absent]
  exact Bool.false_ne_true

theorem isTypeName_of_alphanumeric (each : ∀ c ∈ text, c.isAlphanum = true) :
    isTypeName text = text.head?.any Char.isUpper := by
  cases text with
  | nil => rfl
  | cons first rest =>
      have others : rest.all Char.isAlphanum = true :=
        List.all_eq_true.2 (List.forall_mem_cons.1 each).2
      rw [isTypeName, others, Bool.and_true]
      rfl

/-- A reference to letters and digits is a link exactly if they begin with a capital letter. -/
theorem seeLink_of_alphanumeric {target : String}
    (each : ∀ c ∈ target.toList, c.isAlphanum = true) :
    seeLink target =
      if target.toList.head?.any Char.isUpper then
        "[" ++ target ++ "](#" ++ headingAnchor target ++ ")"
      else target := by
  have absent (mark : Char) (other : mark.isAlphanum = false) : mark ∉ target.toList :=
    fun member => Bool.noConfusion (other.symm.trans (each mark member))
  have noLink := holdsLink_of_notMem (absent '[' (by decide))
  have noAddress := holdsAddress_of_notMem (absent ':' (by decide))
  have noPath := isPath_of_notMem (absent '/' (by decide))
  simp only [seeLink, noLink, noAddress, noPath, isTypeName_of_alphanumeric each,
    Bool.false_eq_true, if_false]

theorem link_ne_target (target anchor : String) :
    "[" ++ target ++ "](#" ++ anchor ++ ")" ≠ target := by
  intro same
  have long := congrArg String.length same
  have opening : "[".length = 1 := rfl
  simp only [String.length_append] at long
  omega

theorem seeLink_eq_link_iff {target : String} (each : ∀ c ∈ target.toList, c.isAlphanum = true) :
    seeLink target = "[" ++ target ++ "](#" ++ headingAnchor target ++ ")" ↔
      target.toList.head?.any Char.isUpper = true := by
  rw [seeLink_of_alphanumeric each]
  split
  · rename_i capital
    exact iff_of_true rfl capital
  · rename_i other
    exact iff_of_false (link_ne_target target _).symm other

/-! ## References to the types of identifiers -/

/-- The type of a word begins with a capital letter or with a digit. -/
theorem isUpper_head_typeName_iff (word : (Token.word name).IsLexeme) {c : Char}
    (begins : c ∈ (typeName name).toList.head?) : c.isUpper = true ↔ c.isDigit = false := by
  constructor
  · intro capital
    refine Bool.eq_false_iff.2 fun digit => ?_
    exact Bool.noConfusion (capital.symm.trans (Unicode.isUpper_eq_false_of_isDigit digit))
  · intro noDigit
    have small := isLower_eq_false_of_head_typeName (identifier_of_word word) begins
    have letter := isAlphanum_of_mem_typeName word c (List.mem_of_mem_head? begins)
    rwa [Char.isAlphanum, Char.isAlpha, small, noDigit, Bool.or_false, Bool.or_false] at letter

/-- **References to the type of a word agree with the rows that mention it.** The type has a name of
ASCII letters and digits. A row links to it by the anchor of its heading, which is the word in lower
case without underscores. A reference to it is a link with this anchor exactly if the name does not
begin with a digit, and stays as it is otherwise. -/
theorem seeLink_typeName (word : (Token.word name).IsLexeme) :
    let type := typeName name
    let anchor := headingAnchor type
    (type ≠ "" ∧ ∀ c ∈ type.toList, c.isAlphanum = true) ∧
      (∀ row : Row, row.typeName = some type → row.anchor = some anchor) ∧
      (anchor =
        if name.toList.all (· = '_') then "unknownobject"
        else String.ofList ((name.toList.filter (· ≠ '_')).map Char.toLower)) ∧
      (seeLink type = "[" ++ type ++ "](#" ++ anchor ++ ")" ↔
        type.toList.head?.any Char.isDigit = false) ∧
      (type.toList.head?.any Char.isDigit = true → seeLink type = type) := by
  intro type anchor
  have identifier := identifier_of_word word
  have each : ∀ c ∈ type.toList, c.isAlphanum = true := isAlphanum_of_mem_typeName word
  obtain ⟨first, rest, spelled⟩ :=
    List.exists_cons_of_ne_nil (mt String.toList_eq_nil_iff.1 (typeName_ne_empty name))
  have begins : type.toList.head? = some first := by rw [spelled, List.head?_cons]
  have capital_iff := isUpper_head_typeName_iff word begins
  refine ⟨⟨typeName_ne_empty name, each⟩, ?_, headingAnchor_typeName identifier, ?_, ?_⟩
  · intro row mentioned
    rw [Row.anchor, mentioned, Option.map_some,
      ← headingAnchor_eq_iff.2 (anchorsItself_of_identifier identifier)]
  · rw [seeLink_eq_link_iff each, begins, Option.any_some, Option.any_some, capital_iff]
  · intro digit
    rw [begins, Option.any_some] at digit
    rw [seeLink_of_alphanumeric each, begins, Option.any_some,
      Unicode.isUpper_eq_false_of_isDigit digit]
    rfl

/-- A word with capitals inside it and with parts that begin with digits or are empty, and a word
whose type begins with a digit. -/
theorem seeLink_typeName_digits :
    let row (type : String) : Row := ⟨objectSignature type, some type, "", "", "", .none⟩
    ((Token.word "__vpcID_4x").IsLexeme ∧ typeName "__vpcID_4x" = "Vpcid4x" ∧
      (row "Vpcid4x").anchor = some "vpcid4x" ∧
      seeLink "Vpcid4x" = "[Vpcid4x](#vpcid4x)") ∧
    (Token.word "_9LIVES").IsLexeme ∧ typeName "_9LIVES" = "9lives" ∧
      (row "9lives").anchor = some "9lives" ∧ seeLink "9lives" = "9lives" := by
  intro row
  have parted : (Token.word "__vpcID_4x").IsLexeme :=
    ⟨'_', "_vpcID_4x".toList, rfl, rfl, List.all_eq_true.1 rfl⟩
  have partedType : typeName "__vpcID_4x" = "Vpcid4x" := by decide +kernel
  obtain ⟨_, partedRow, partedAnchor, partedLink, _⟩ := seeLink_typeName parted
  rw [partedAnchor, partedType] at partedRow partedLink
  have digital : (Token.word "_9LIVES").IsLexeme :=
    ⟨'_', "9LIVES".toList, rfl, rfl, List.all_eq_true.1 rfl⟩
  have digitalType : typeName "_9LIVES" = "9lives" := by decide +kernel
  obtain ⟨_, digitalRow, digitalAnchor, _, digitalLink⟩ := seeLink_typeName digital
  rw [digitalAnchor, digitalType] at digitalRow
  rw [digitalType] at digitalLink
  exact ⟨⟨parted, partedType, partedRow _ rfl, partedLink.2 rfl⟩,
    digital, digitalType, digitalRow _ rfl, digitalLink rfl⟩

end Render

end InputDocs

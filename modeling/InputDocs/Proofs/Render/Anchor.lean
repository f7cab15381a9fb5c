import InputDocs.Proofs.Manifest.Names
import InputDocs.Render.Link
import Mathlib.Data.List.Basic

/-!
# Proofs.Render.Anchor -- links to nested types and the headings they lead to

A row links to its nested type by an anchor of its own making, the name of the type in lower case
(`Row.anchor`). The table of the type stands under a heading, and the anchor of a heading is made in
another way: it is trimmed, blanks become hyphens, and what is neither a letter nor a digit is left
out (`headingAnchor`).

The two agree exactly if nothing in the name of the type is trimmed, left out or replaced
(`headingAnchor_eq_iff`). Names that are spelled with letters, digits, underscores and hyphens of
ASCII own types of this kind (`anchorsItself_of_identifier`). A link can still go wrong: two types
may have one anchor, as those of `ab` and `a_b` do, whose names differ in case alone.
-/

namespace InputDocs

set_option autoImplicit false

namespace Render

/-! ## Anchors of headings -/

/-- Characters that a heading leaves in its anchor as they are. -/
def KeptInAnchor (c : Char) : Prop := Unicode.isAlphanumeric c = true ∨ c = '-' ∨ c = '_'

instance : DecidablePred KeptInAnchor := fun _ => inferInstanceAs (Decidable (_ ∨ _))

theorem anchorChar_of_kept {c : Char} (kept : KeptInAnchor c) : anchorChar c = some c := by
  have other : c ≠ ' ' := by
    rintro rfl
    exact absurd kept (by decide)
  have stays : (Unicode.isAlphanumeric c || c = '-' || c = '_') = true := by
    simpa [KeptInAnchor, or_assoc] using kept
  rw [anchorChar, if_neg other, if_pos stays]

theorem keptInAnchor_of_anchorChar {c image : Char} (left : anchorChar c = some image) :
    KeptInAnchor image := by
  unfold anchorChar at left
  split at left
  · obtain rfl := Option.some_inj.1 left
    exact .inr (.inl rfl)
  · split at left
    · rename_i stays
      obtain rfl := Option.some_inj.1 left
      simpa [KeptInAnchor, or_assoc] using stays
    · cases left

/-- The heading is its own anchor in lower case: there is nothing to trim, and every character of
its lower case is kept. -/
structure AnchorsItself (heading : String) : Prop where
  trimmed : Unicode.trim heading.toList = heading.toList
  kept : ∀ c ∈ Unicode.lowercase heading.toList, KeptInAnchor c

/-- **A heading has its own lower case as its anchor** exactly if nothing in it is trimmed, left out
or replaced. -/
theorem headingAnchor_eq_iff {heading : String} :
    headingAnchor heading = String.ofList (Unicode.lowercase heading.toList) ↔
      AnchorsItself heading := by
  rw [headingAnchor, String.ofList_inj]
  constructor
  · intro same
    refine ⟨?_, ?_⟩
    · -- What is trimmed would be missing in the anchor, which is as long as the whole lower case.
      obtain ⟨lead, tail, whole⟩ := Unicode.exists_append_trim heading.toList
      have long := congrArg List.length same
      have short := List.length_filterMap_le anchorChar
        (Unicode.lowercase (Unicode.trim heading.toList))
      have cut := congrArg (fun text => (Unicode.lowercase text).length) whole
      simp only [Unicode.length_lowercase_append] at cut
      have noLead : lead = [] := Unicode.eq_nil_of_lowercase (by omega)
      have noTail : tail = [] := Unicode.eq_nil_of_lowercase (by omega)
      rw [noLead, noTail, List.nil_append, List.append_nil] at whole
      exact whole.symm
    · intro c member
      rw [← same] at member
      obtain ⟨_, _, left⟩ := List.mem_filterMap.1 member
      exact keptInAnchor_of_anchorChar left
  · rintro ⟨trimmed, kept⟩
    rw [trimmed, List.filterMap_congr fun c member => anchorChar_of_kept (kept c member),
      List.filterMap_some]

/-! ## Identifiers -/

/-- ASCII letters, digits and hyphens. -/
def IsPlain (c : Char) : Prop := c.isAlphanum = true ∨ c = '-'

instance : DecidablePred IsPlain := fun _ => inferInstanceAs (Decidable (_ ∨ _))

theorem ascii_of_plain {c : Char} (plain : IsPlain c) : c.toNat < 128 := by
  have below (last : Char) (ascii : last.toNat < 128) (bound : c.val ≤ last.val) : c.toNat < 128 :=
    Nat.lt_of_le_of_lt (UInt32.le_iff_toNat_le.1 bound) ascii
  rcases plain with alphanumeric | rfl
  · rcases Bool.or_eq_true_iff.1 alphanumeric with letter | digit
    · rcases Bool.or_eq_true_iff.1 letter with capital | small
      · exact below 'Z' (by decide) (of_decide_eq_true capital).2
      · exact below 'z' (by decide) (of_decide_eq_true (Bool.and_eq_true_iff.1 small).2)
    · exact below '9' (by decide) (of_decide_eq_true (Bool.and_eq_true_iff.1 digit).2)
  · decide

/-- What has been checked for the codes of ASCII holds of every plain character. -/
theorem IsPlain.of_codes {p : Char → Prop} {c : Char} (plain : IsPlain c)
    (checked : ∀ code < 128, IsPlain (Char.ofNat code) → p (Char.ofNat code)) : p c :=
  Unicode.of_ascii (p := fun c => IsPlain c → p c) (ascii_of_plain plain) checked plain

theorem isBlank_of_plain {c : Char} (plain : IsPlain c) : Unicode.isBlank c = false :=
  plain.of_codes (p := fun c => Unicode.isBlank c = false) (by decide)

theorem plain_toUpper {c : Char} (plain : IsPlain c) : IsPlain c.toUpper :=
  plain.of_codes (p := fun c => IsPlain c.toUpper) (by decide)

theorem plain_toLower {c : Char} (plain : IsPlain c) : IsPlain c.toLower :=
  plain.of_codes (p := fun c => IsPlain c.toLower) (by decide)

theorem keptInAnchor_of_plain {c : Char} (plain : IsPlain c) : KeptInAnchor c := by
  rw [KeptInAnchor, Unicode.isAlphanumeric_of_ascii (ascii_of_plain plain)]
  exact plain.imp_right .inl

theorem plain_of_mem_capitalize {image : Char} {text : List Char} (plain : ∀ c ∈ text, IsPlain c)
    (member : image ∈ Unicode.capitalize text) : IsPlain image := by
  cases text with
  | nil => cases member
  | cons first rest =>
      rw [Unicode.capitalize_of_ascii fun c among => ascii_of_plain (plain c among)] at member
      rw [List.forall_mem_cons] at plain
      rcases List.mem_cons.1 member with rfl | later
      · exact plain_toUpper plain.1
      · obtain ⟨c, among, rfl⟩ := List.mem_map.1 later
        exact plain_toLower (plain.2 c among)

theorem plain_of_mem_lowercase {image : Char} {text : List Char} (plain : ∀ c ∈ text, IsPlain c)
    (member : image ∈ Unicode.lowercase text) : IsPlain image := by
  rw [Unicode.lowercase_of_ascii fun c among => ascii_of_plain (plain c among)] at member
  obtain ⟨c, among, rfl⟩ := List.mem_map.1 member
  exact plain_toLower (plain c among)

/-- A name that is spelled with ASCII letters, digits, underscores and hyphens. -/
def IsIdentifier (name : String) : Prop :=
  ∀ c ∈ name.toList, Token.isWordPart c = true ∨ c = '-'

instance : DecidablePred IsIdentifier := fun name => List.decidableBAll _ name.toList

theorem identifier_of_word {name : String} (word : (Token.word name).IsLexeme) :
    IsIdentifier name :=
  fun c member => .inl (Token.isWordPart_of_isWord word c member)

theorem plain_of_identifier {name : String} (identifier : IsIdentifier name) {c : Char}
    (member : c ∈ name.toList) (other : c ≠ '_') : IsPlain c := by
  rcases identifier c member with wordPart | hyphen
  · rcases Bool.or_eq_true_iff.1 wordPart with alphanumeric | underscore
    · exact .inl alphanumeric
    · exact absurd (of_decide_eq_true underscore) other
  · exact .inr hyphen

theorem plain_of_mem_typeName {name : String} (identifier : IsIdentifier name) :
    ∀ c ∈ (typeName name).toList, IsPlain c := by
  unfold typeName
  dsimp only
  split
  · have checked : (unknownTypeName.toList.all fun c => decide (IsPlain c)) = true := by decide
    exact fun c member => of_decide_eq_true (List.all_eq_true.1 checked c member)
  · rw [String.toList_ofList]
    intro image member
    obtain ⟨part, among, capital⟩ := List.mem_flatMap.1 member
    refine plain_of_mem_capitalize ?_ capital
    intro c inside
    refine plain_of_identifier identifier (Text.mem_of_mem_splitOn among inside) ?_
    rintro rfl
    exact Text.notMem_of_mem_splitOn among inside

/-- **The type of an identifier is linked by the anchor of its heading.** -/
theorem anchorsItself_of_identifier {name : String} (identifier : IsIdentifier name) :
    AnchorsItself (typeName name) := by
  have plain := plain_of_mem_typeName identifier
  refine ⟨Unicode.trim_of_visible fun c member => isBlank_of_plain (plain c member), ?_⟩
  intro c member
  exact keptInAnchor_of_plain (plain_of_mem_lowercase plain member)

/-! ## Links of a manifest -/

/-- The row links to the heading of this nested type and of no other. -/
def LinksTo (manifest : Manifest) (row : Row) (name : String) : Prop :=
  ∀ key, key ∈ manifest.nested ∧ row.anchor = some (headingAnchor key) ↔ key = name

/-- A row links to the nested type that it mentions exactly if that type is its own anchor and no
other type has the same anchor. -/
theorem linksTo_iff_of_mem {manifest : Manifest} {row : Row} {name : String}
    (listed : name ∈ manifest.nested) (mentioned : row.typeName = some name) :
    LinksTo manifest row name ↔ AnchorsItself name ∧
      ∀ key ∈ manifest.nested, headingAnchor key = headingAnchor name → key = name := by
  have anchor : row.anchor = some (String.ofList (Unicode.lowercase name.toList)) := by
    rw [Row.anchor, mentioned, Option.map_some]
  rw [LinksTo, anchor, ← headingAnchor_eq_iff]
  simp only [Option.some_inj]
  constructor
  · intro only
    have own := ((only name).2 rfl).2
    refine ⟨own.symm, ?_⟩
    intro key among same
    exact (only key).1 ⟨among, own.trans same.symm⟩
  · rintro ⟨own, alone⟩ key
    constructor
    · rintro ⟨among, same⟩
      exact alone key among (same.symm.trans own.symm)
    · rintro rfl
      exact ⟨listed, own.symm⟩

variable [PatternEngine] {options : Options} {inputs : List Variable} {row : Row} {name : String}

theorem mem_nested_of_hasRow (has : (Manifest.ofVariables options inputs).HasRow row)
    (mentioned : row.typeName = some name) :
    name ∈ (Manifest.ofVariables options inputs).nested := by
  obtain ⟨input, among, added⟩ := Manifest.hasRow_ofVariables has
  have named := Contribution.ofVariable_linked options input row added name mentioned
  exact Manifest.mem_nested_ofVariables.2 ⟨input, among, named⟩

/-- The keys of properties are identifiers anyway. -/
theorem anchorsItself_of_mem_nested (identifiers : ∀ input ∈ inputs, IsIdentifier input.name) :
    ∀ key ∈ (Manifest.ofVariables options inputs).nested, AnchorsItself key := by
  intro key among
  obtain ⟨name, source, rfl⟩ := Manifest.exists_name_of_mem_nested among
  refine anchorsItself_of_identifier ?_
  rcases source with ⟨input, given, rfl⟩ | word
  · exact identifiers input given
  · exact identifier_of_word word

/-- **A row links to the nested type that it mentions, and to no other,** exactly if the name of the
type is its own anchor and no other type has this anchor. If all inputs are named by identifiers,
this means that no other name of a type is the same in lower case. -/
theorem linksTo_iff (has : (Manifest.ofVariables options inputs).HasRow row)
    (mentioned : row.typeName = some name) :
    (LinksTo (Manifest.ofVariables options inputs) row name ↔ AnchorsItself name ∧
      ∀ key ∈ (Manifest.ofVariables options inputs).nested,
        headingAnchor key = headingAnchor name → key = name) ∧
    ((∀ input ∈ inputs, IsIdentifier input.name) →
      (LinksTo (Manifest.ofVariables options inputs) row name ↔
        ∀ key ∈ (Manifest.ofVariables options inputs).nested,
          Unicode.lowercase key.toList = Unicode.lowercase name.toList → key = name)) := by
  have listed := mem_nested_of_hasRow has mentioned
  refine ⟨linksTo_iff_of_mem listed mentioned, ?_⟩
  intro identifiers
  have anchors : ∀ key ∈ (Manifest.ofVariables options inputs).nested, AnchorsItself key :=
    anchorsItself_of_mem_nested identifiers
  have own := anchors name listed
  rw [linksTo_iff_of_mem listed mentioned, and_iff_right own, headingAnchor_eq_iff.2 own]
  refine forall₂_congr fun key among => ?_
  rw [headingAnchor_eq_iff.2 (anchors key among), String.ofList_inj]

omit [PatternEngine] in
/-- A name with a hyphen and an underscore, and another type in the same manifest. -/
theorem linksTo_iff_hyphen :
    let _ : PatternEngine := .lenient
    let net : Variable :=
      { name := "my-net_conf"
        type := "map(object(\x7b dns = object(\x7b a = any \x7d) \x7d))" }
    ∃ row ∈ (Manifest.ofVariables {} [net]).optional.rows,
      row.anchor = some "my-netconf" ∧
        LinksTo (Manifest.ofVariables {} [net]) row "My-netConf" := by
  intro _ net
  obtain ⟨row, member, mentioned, anchor⟩ :
      ∃ row ∈ (Manifest.ofVariables {} [net]).optional.rows,
        row.typeName = some "My-netConf" ∧ row.anchor = some "my-netconf" := by
    decide +kernel
  have identifiers : ∀ input ∈ [net], IsIdentifier input.name := by
    decide +kernel
  have alone : ∀ key ∈ (Manifest.ofVariables {} [net]).nested.keys,
      Unicode.lowercase key.toList = Unicode.lowercase "My-netConf".toList →
        key = "My-netConf" := by
    decide +kernel
  refine ⟨row, member, anchor, ((linksTo_iff (.optional member) mentioned).2 identifiers).2 ?_⟩
  intro key among
  exact alone key (Std.ExtTreeMap.mem_keys.2 among)

omit [PatternEngine] in
/-- The type of `a b` has a hyphen in the anchor of its heading and a blank in its link. The types
of `ab` and `a_b` differ in case alone, so a link to the one is a link to the other as well. -/
theorem not_linksTo :
    let _ : PatternEngine := .lenient
    let blank : Variable := { name := "a b", type := "object(\x7b x = any \x7d)" }
    let whole : Variable := { name := "ab", type := "object(\x7b x = any \x7d)" }
    let parted : Variable := { name := "a_b", type := "object(\x7b x = any \x7d)" }
    (∃ row ∈ (Manifest.ofVariables {} [blank]).optional.rows,
        row.typeName = some "A b" ∧ row.anchor = some "a b" ∧ headingAnchor "A b" = "a-b" ∧
          ¬ LinksTo (Manifest.ofVariables {} [blank]) row "A b") ∧
      ∃ row ∈ (Manifest.ofVariables {} [whole, parted]).optional.rows,
        row.typeName = some "Ab" ∧ row.anchor = some "ab" ∧
          "AB" ∈ (Manifest.ofVariables {} [whole, parted]).nested ∧ headingAnchor "AB" = "ab" ∧
            ¬ LinksTo (Manifest.ofVariables {} [whole, parted]) row "Ab" := by
  intro _ blank whole parted
  obtain ⟨dangling, member, named, anchor, heading⟩ :
      ∃ row ∈ (Manifest.ofVariables {} [blank]).optional.rows,
        row.typeName = some "A b" ∧ row.anchor = some "a b" ∧ headingAnchor "A b" = "a-b" := by
    decide +kernel
  obtain ⟨shared, among, owned, target, other, collides⟩ :
      ∃ row ∈ (Manifest.ofVariables {} [whole, parted]).optional.rows,
        row.typeName = some "Ab" ∧ row.anchor = some "ab" ∧
          "AB" ∈ (Manifest.ofVariables {} [whole, parted]).nested.keys ∧
            headingAnchor "AB" = "ab" := by
    decide +kernel
  have present := Std.ExtTreeMap.mem_keys.1 other
  refine ⟨⟨dangling, member, named, anchor, heading, ?_⟩,
    shared, among, owned, target, present, collides, ?_⟩
  · intro only
    have same := ((only "A b").2 rfl).2
    rw [anchor, heading] at same
    exact absurd same (by decide)
  · intro only
    have same := (only "AB").1 ⟨present, by rw [target, collides]⟩
    exact absurd same (by decide)

end Render

end InputDocs

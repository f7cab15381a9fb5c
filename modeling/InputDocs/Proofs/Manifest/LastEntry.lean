import InputDocs.Manifest.Contribution

/-!
# Proofs.Manifest.LastEntry -- maps that variables put their entries into

A manifest has two maps, the nested tables and the reference links, and every variable puts a list
of entries into each, over what is there. So either map is what one long list of entries leaves
(`Manifest.index_foldl`): under each key the last entry with it (`lastEntry`,
`Manifest.getElem?_insertMany`).

The last entry of a list made of parts is the last one of the last part that has any
(`findSomeRev?_flatMap`). With this law the search can be moved to whatever the entries were made
of, be it variables, fields or directives.
-/

namespace InputDocs

set_option autoImplicit false

/-! ## The last of a list -/

section Last

variable {α β γ : Type}

theorem findSomeRev?_append (f : α → Option β) (first second : List α) :
    (first ++ second).findSomeRev? f = (second.findSomeRev? f).or (first.findSomeRev? f) := by
  simp only [List.findSomeRev?_eq_findSome?_reverse, List.reverse_append, List.findSome?_append]

theorem findSomeRev?_cons (f : α → Option β) (first : α) (rest : List α) :
    (first :: rest).findSomeRev? f = (rest.findSomeRev? f).or (f first) := by
  rw [List.findSomeRev?]
  cases rest.findSomeRev? f <;> simp

theorem findSomeRev?_eq_none_iff {f : α → Option β} {items : List α} :
    items.findSomeRev? f = none ↔ ∀ item ∈ items, f item = none := by
  simp [List.findSomeRev?_eq_findSome?_reverse]

/-- What is found stands after everything else that could have been. -/
theorem findSomeRev?_eq_some_iff {f : α → Option β} {items : List α} {found : β} :
    items.findSomeRev? f = some found ↔
      ∃ before item after, items = before ++ item :: after ∧ f item = some found ∧
        ∀ later ∈ after, f later = none := by
  rw [List.findSomeRev?_eq_findSome?_reverse, List.findSome?_eq_some_iff]
  constructor
  · rintro ⟨after, item, before, parts, value, absent⟩
    refine ⟨before.reverse, item, after.reverse, ?_, value, ?_⟩
    · rw [← items.reverse_reverse, parts]
      simp
    · exact fun later member => absent later (List.mem_reverse.1 member)
  · rintro ⟨before, item, after, rfl, value, absent⟩
    refine ⟨after.reverse, item, before.reverse, by simp, value, ?_⟩
    exact fun later member => absent later (List.mem_reverse.1 member)

theorem findSomeRev?_filterMap (f : β → Option γ) (g : α → Option β) (items : List α) :
    (items.filterMap g).findSomeRev? f = items.findSomeRev? fun item => (g item).bind f := by
  induction items with
  | nil => rfl
  | cons first rest ih =>
      rw [findSomeRev?_cons, ← ih, List.filterMap_cons]
      cases g first with
      | none => simp
      | some value => simp

/-- The last of a list of parts is the last of the last part that has one. -/
theorem findSomeRev?_flatMap (f : β → Option γ) (g : α → List β) (items : List α) :
    (items.flatMap g).findSomeRev? f = items.findSomeRev? fun item => (g item).findSomeRev? f := by
  induction items with
  | nil => rfl
  | cons first rest ih => rw [List.flatMap_cons, findSomeRev?_append, findSomeRev?_cons, ih]

theorem findSomeRev?_congr {f g : α → Option β} {items : List α}
    (same : ∀ item ∈ items, f item = g item) : items.findSomeRev? f = items.findSomeRev? g := by
  induction items with
  | nil => rfl
  | cons first rest ih =>
      obtain ⟨here, others⟩ := List.forall_mem_cons.1 same
      rw [findSomeRev?_cons, findSomeRev?_cons, ih others, here]

/-- Items of which nothing comes can be left out. -/
theorem findSomeRev?_filter {f : α → Option β} {p : α → Bool} {items : List α}
    (nothing : ∀ item ∈ items, p item = false → f item = none) :
    (items.filter p).findSomeRev? f = items.findSomeRev? f := by
  induction items with
  | nil => rfl
  | cons first rest ih =>
      obtain ⟨here, others⟩ := List.forall_mem_cons.1 nothing
      rw [findSomeRev?_cons, List.filter_cons, ← ih others]
      cases kept : p first with
      | true => rw [if_pos rfl, findSomeRev?_cons]
      | false => rw [here kept, Option.or_none, if_neg Bool.false_ne_true]

end Last

/-! ## The last entry with a key -/

/-- The value of an entry with the key. -/
def valueFor {α : Type} (name : String) (entry : String × α) : Option α :=
  if entry.1 = name then some entry.2 else none

/-- The value of the last entry with the key. -/
def lastEntry {α : Type} (name : String) (entries : List (String × α)) : Option α :=
  entries.findSomeRev? (valueFor name)

theorem valueFor_eq_some_iff {α : Type} {name : String} {entry : String × α} {value : α} :
    valueFor name entry = some value ↔ entry = (name, value) := by
  obtain ⟨key, found⟩ := entry
  simp [valueFor]

theorem mem_of_lastEntry {α : Type} {name : String} {entries : List (String × α)} {value : α}
    (last : lastEntry name entries = some value) : (name, value) ∈ entries := by
  obtain ⟨before, entry, after, parts, here, _⟩ := findSomeRev?_eq_some_iff.1 last
  rw [parts, ← valueFor_eq_some_iff.1 here]
  simp

theorem lastEntry_eq_none_iff {α : Type} {name : String} {entries : List (String × α)} :
    lastEntry name entries = none ↔ ∀ value, (name, value) ∉ entries := by
  rw [lastEntry, findSomeRev?_eq_none_iff]
  constructor
  · intro none value member
    have absent := none _ member
    rw [valueFor_eq_some_iff.2 rfl] at absent
    cases absent
  · intro absent entry member
    rw [Option.eq_none_iff_forall_ne_some]
    intro value found
    rw [valueFor_eq_some_iff.1 found] at member
    exact absent value member

namespace Manifest

variable {α : Type}

theorem getElem?_insertMany (index : Index α) (entries : List (String × α)) (name : String) :
    (index.insertMany entries)[name]? = (lastEntry name entries).or index[name]? := by
  rw [Std.ExtTreeMap.getElem?_insertMany_list, lastEntry]
  congr 2
  funext entry
  simp only [valueFor, Std.LawfulEqCmp.compare_eq_iff_eq]

/-- A map that contributions put their entries into holds what all their entries leave. -/
theorem index_foldl {index : Manifest → Index α} {entries : Contribution → List (String × α)}
    (step : ∀ manifest added, index (add manifest added) =
      (index manifest).insertMany (entries added))
    (added : List Contribution) (manifest : Manifest) :
    index (added.foldl add manifest) = (index manifest).insertMany (added.flatMap entries) := by
  induction added generalizing manifest with
  | nil => rfl
  | cons first rest ih =>
      rw [List.foldl_cons, ih, step, List.flatMap_cons, Std.ExtTreeMap.insertMany_append]

/-- What such a map holds after some variables is what the last variable with an entry for the key
has put there. -/
theorem getElem?_ofVariables [PatternEngine] {index : Manifest → Index α}
    {entries : Contribution → List (String × α)}
    (step : ∀ manifest added, index (add manifest added) =
      (index manifest).insertMany (entries added))
    (start : index empty = ∅) (options : Options) (inputs : List Variable) (name : String) :
    (index (ofVariables options inputs))[name]? =
      inputs.findSomeRev? fun input =>
        lastEntry name (entries (Contribution.ofVariable options input)) := by
  rw [ofVariables, index_foldl step, getElem?_insertMany, start, lastEntry, List.flatMap_map,
    findSomeRev?_flatMap]
  exact Option.or_none

/-- What such a map holds was put there by some variable. -/
theorem exists_entry_of_ofVariables [PatternEngine] {index : Manifest → Index α}
    {entries : Contribution → List (String × α)}
    (step : ∀ manifest added, index (add manifest added) =
      (index manifest).insertMany (entries added))
    (start : index empty = ∅) {options : Options} {inputs : List Variable} {name : String}
    {value : α} (found : (index (ofVariables options inputs))[name]? = some value) :
    ∃ input ∈ inputs, (name, value) ∈ entries (Contribution.ofVariable options input) := by
  rw [getElem?_ofVariables step start] at found
  obtain ⟨before, input, after, rfl, last, _⟩ := findSomeRev?_eq_some_iff.1 found
  exact ⟨input, by simp, mem_of_lastEntry last⟩

end Manifest

end InputDocs

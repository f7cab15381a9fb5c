import InputDocs.Json.Reader
import Std.Data.ExtTreeMap

/-!
# Variable -- declared variables and their text

A variable has a name, a type expression if it is typed, a description, whether it is required,
and a default if it has one. Variables are read from a JSON array. Each element is an object with
these five under their keys, or an array with them in order:

* only the name must be given;
* an object may hold other keys, whose values are skipped, and no known key twice;
* an array may end early and must not go on after the default.

A default is shown as a string stands, and anything else on one line with the keys of objects in
order (`Variable.defaultText`).
-/

namespace InputDocs

set_option autoImplicit false

/-- A declared variable. -/
structure Variable where
  name : String
  type : Option String := none
  description : String := ""
  isRequired : Bool := false
  default : Option Json := none
  deriving Repr

namespace Json

mutual

/-- The value with the entries of its objects in the order of their keys, of entries with one key
only the last. -/
def sorted : Json → Json
  | array items => array (sortedItems items)
  | object entries => object (Std.ExtTreeMap.ofList (sortedEntries entries) compare).toList
  | leaf => leaf

/-- Items with the objects in them sorted. -/
def sortedItems : List Json → List Json
  | [] => []
  | first :: rest => first.sorted :: sortedItems rest

/-- Entries with the objects in them sorted. -/
def sortedEntries : List (String × Json) → List (String × Json)
  | [] => []
  | (key, value) :: rest => (key, value.sorted) :: sortedEntries rest

end

end Json

namespace Variable

/-- The default as tables show it. -/
def defaultText (input : Variable) : String :=
  match input.default with
  | none | some .null => ""
  | some (.string text) => text
  | some value => String.ofList value.sorted.compact

/-! ## Reading -/

/-- What has been read of a variable. A field is there once its value has been read, also when
that value is `null`. -/
structure Draft where
  name : Option String := none
  type : Option (Option String) := none
  description : Option String := none
  isRequired : Option Bool := none
  default : Option (Option Json) := none

/-- The variable of a finished draft. -/
def Draft.finish (draft : Draft) : Reader Variable :=
  match draft.name with
  | none => throw .mismatch
  | some name => return {
      name
      type := draft.type.join
      description := draft.description.getD ""
      isRequired := draft.isRequired.getD false
      default := draft.default.join }

/-- How deep inside arrays and objects a default stands. -/
def defaultDepth : Nat := 2

/-- A known field: whether a draft has it, and how its value is read into the draft. -/
structure Slot where
  isTaken : Draft → Bool
  read : Draft → Reader Draft

/-- The fields in the order in which an array gives them, with their keys. -/
def slots : List (String × Slot) :=
  [ ("name", ⟨(·.name.isSome), fun draft => do
      return { draft with name := some (← Reader.stringValue) }⟩),
    ("type", ⟨(·.type.isSome), fun draft => do
      return { draft with type := some (← Reader.orNull Reader.stringValue) }⟩),
    ("description", ⟨(·.description.isSome), fun draft => do
      return { draft with description := some (← Reader.stringValue) }⟩),
    ("required", ⟨(·.isRequired.isSome), fun draft => do
      return { draft with isRequired := some (← Reader.boolValue) }⟩),
    ("default", ⟨(·.default.isSome), fun draft => do
      return { draft with default := some (← Reader.orNull (Reader.value defaultDepth)) }⟩) ]

/-- Read the entries of an object into a draft, up to the closing brace. -/
def readEntries : Nat → Bool → Draft → Reader Draft
  | 0, _, _ => throw .endsEarly
  | fuel + 1, first, draft => do
    match ← Reader.nextKey first true with
    | none =>
      Reader.skip
      return draft
    | some key =>
      match slots.lookup key with
      | none =>
        Reader.colon
        Reader.skipValue
        readEntries fuel false draft
      | some slot =>
        if slot.isTaken draft then throw .mismatch
        Reader.colon
        readEntries fuel false (← slot.read draft)

/-- Read the items of an array into a draft, one for each slot, as long as there are items. -/
def readItems (first : Bool) (draft : Draft) : List (String × Slot) → Reader Draft
  | [] => return draft
  | (_, slot) :: rest => do
    if ← Reader.hasItem first then readItems false (← slot.read draft) rest else return draft

/-- The bracket that must come after the last item. -/
def closeItems : Reader Unit := do
  match ← Reader.peekPastGap with
  | none => throw .endsEarly
  | some ']' => Reader.skip
  | some _ => throw .malformed

/-- A variable. -/
def read : Reader Variable := do
  match ← Reader.peekPastGap with
  | some '\x7b' =>
    Reader.skip
    (← readEntries (2 * (← get).length + 2) true {}).finish
  | some '[' =>
    Reader.skip
    let found ← (← readItems true {} slots).finish
    closeItems
    return found
  | _ => Reader.mismatch

/-- Variables up to the closing bracket. -/
def readAll : Nat → Bool → Reader (List Variable)
  | 0, _ => throw .endsEarly
  | fuel + 1, first => do
    if ← Reader.hasItem first then
      let found ← read
      return found :: (← readAll fuel false)
    Reader.skip
    return []

/-- A whole text as a list of variables. -/
def readList : Reader (List Variable) := do
  match ← Reader.peekPastGap with
  | some '[' =>
    Reader.skip
    let all ← readAll ((← get).length + 1) true
    match ← Reader.peekPastGap with
    | none => return all
    | some _ => throw .malformed
  | _ => Reader.mismatch

/-- Read variables from a text. -/
def listOfText (text : String) : Except ReadError (List Variable) :=
  (readList.run text.toList).map (·.1)

end Variable

end InputDocs

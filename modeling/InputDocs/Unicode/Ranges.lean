import InputDocs.Text.Digit

/-!
# Unicode.Ranges -- sets of code points as closed intervals

A set is a list of intervals with both ends included. `Ranges.ofText` reads the notation of the
tables: lines of intervals in hexadecimal, parted by blanks, a single code point standing for
itself (`"41-5A 5F"`). Intervals are listed in increasing order and do not touch; `ofList` brings
any list of intervals into that form, and the operations on sets keep it.
-/

namespace InputDocs.Unicode

set_option autoImplicit false

/-- Closed intervals of code points. -/
abbrev Ranges := List (Nat × Nat)

namespace Ranges

/-- Whether an interval of the set holds the code point. -/
def contains (set : Ranges) (code : Nat) : Bool :=
  set.any fun (first, last) => decide (first ≤ code) && decide (code ≤ last)

/-- Read the notation of the tables; a part that is no interval is left out. -/
def ofText (lines : List String) : Ranges :=
  (lines.flatMap fun line => line.toList.splitOn ' ').filterMap fun part =>
    match part.splitOn '-' with
    | [only] => (Text.hexValue? only).map fun code => (code, code)
    | [first, last] => do return (← Text.hexValue? first, ← Text.hexValue? last)
    | _ => none

/-! ## Operations -/

/-- The last code point. -/
def lastCode : Nat := 0x10FFFF

/-- Join intervals that meet or touch; they must be sorted by their first code points. -/
def join : Ranges → Ranges
  | (first, last) :: (next, final) :: rest =>
    if next ≤ last + 1 then join ((first, max last final) :: rest)
    else (first, last) :: join ((next, final) :: rest)
  | set => set
termination_by set => set.length

/-- Intervals in any order, brought into order. -/
def ofList (intervals : List (Nat × Nat)) : Ranges :=
  join (intervals.mergeSort fun left right => decide (left.1 ≤ right.1))

/-- What lies in one of the sets. -/
def union (left right : Ranges) : Ranges := ofList (left ++ right)

/-- What lies between the intervals, from `start` on. -/
def gaps (start : Nat) : Ranges → Ranges
  | [] => if start ≤ lastCode then [(start, lastCode)] else []
  | (first, last) :: rest =>
    (if start < first then [(start, first - 1)] else []) ++ gaps (last + 1) rest

/-- What lies outside the set. -/
def complement (set : Ranges) : Ranges := gaps 0 set

/-- What lies in both sets. -/
def inter (left right : Ranges) : Ranges :=
  complement (union (complement left) (complement right))

/-- What lies in the first set alone. -/
def diff (left right : Ranges) : Ranges := inter left (complement right)

/-- What lies in one set and not in the other. -/
def symmDiff (left right : Ranges) : Ranges := union (diff left right) (diff right left)

end Ranges

end InputDocs.Unicode

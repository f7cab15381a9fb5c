import InputDocs.Json.Reader

/-!
# Proofs.Json.RoundTrip -- values are read back from their texts

`Json.pretty` loses nothing of a value that has no number in it: the reader of `Json.Reader` gives
the value back from its text (`Json.Numberless.readBack`), so two values have two texts
(`Json.Numberless.eq_of_pretty`).

The proof follows the reader. A character of a string is read back in one turn, whichever way it is
escaped (`Reader.run_stringFrom_escapeChar`), and so are the string (`Reader.run_string`), the
items of an array and the entries of an object, each with what stands before it on its line
(`Reader.lead`). The reader takes fuel and has a limit on nesting; the size of the value bounds
both.

Numbers are left out: whether a double is read back from its shortest decimal is another matter.
-/

namespace InputDocs

set_option autoImplicit false

namespace Json

/-- A value without numbers at any depth. -/
inductive Numberless : Json → Prop
  | null : Numberless .null
  | bool (value : Bool) : Numberless (.bool value)
  | string (value : String) : Numberless (.string value)
  | array {items : List Json} (each : ∀ item ∈ items, Numberless item) : Numberless (.array items)
  | object {entries : List (String × Json)} (each : ∀ entry ∈ entries, Numberless entry.2) :
      Numberless (.object entries)

@[simp] theorem numberless_bool (value : Bool) : Numberless (.bool value) := .bool value

@[simp] theorem numberless_string (value : String) : Numberless (.string value) := .string value

@[simp] theorem numberless_array_iff {items : List Json} :
    Numberless (.array items) ↔ ∀ item ∈ items, Numberless item :=
  ⟨fun | .array each => each, .array⟩

@[simp] theorem numberless_object_iff {entries : List (String × Json)} :
    Numberless (.object entries) ↔ ∀ entry ∈ entries, Numberless entry.2 :=
  ⟨fun | .object each => each, .object⟩

end Json

namespace Reader

variable {α β : Type} {text more rest : List Char} {value : α}

/-! ## Readers one after the other -/

theorem run_bind {reader : Reader α} {next : α → Reader β}
    (read : reader.run text = .ok (value, more)) :
    (reader >>= next).run text = (next value).run more := by
  rw [StateT.run_bind, read]
  rfl

theorem run_peekPastGap {c : Char} (past : text.dropWhile isGap = c :: rest) :
    peekPastGap.run text = .ok (some c, c :: rest) := by
  change Except.ok ((text.dropWhile isGap).head?, text.dropWhile isGap) = _
  rw [past]
  rfl

theorem run_skip (c : Char) (rest : List Char) : skip.run (c :: rest) = .ok ((), rest) := rfl

theorem run_next (c : Char) (rest : List Char) : next.run (c :: rest) = .ok (c, rest) := rfl

theorem run_colon (rest : List Char) : colon.run (':' :: rest) = .ok ((), rest) := rfl

theorem run_word (word : List Char) (rest : List Char) :
    (Reader.word word).run (word ++ rest) = .ok ((), rest) := by
  induction word with
  | nil => rfl
  | cons c others ih =>
      rw [Reader.word, List.cons_append, run_bind (run_next c _), if_pos rfl, ih]

/-! ## Strings -/

theorem hexDigit?_lowerHex : ∀ n < 16, Text.hexDigit? (Text.lowerHex n) = some n := by
  decide

theorem run_unicodeEscape {c : Char} (control : c.toNat < 32) (rest : List Char) :
    (unicodeEscape true).run
        ('0' :: '0' :: Text.lowerHex (c.toNat / 16) :: Text.lowerHex (c.toNat % 16) :: rest) =
      .ok (c, rest) := by
  have high := hexDigit?_lowerHex (c.toNat / 16) (by omega)
  have low := hexDigit?_lowerHex (c.toNat % 16) (Nat.mod_lt _ (by decide))
  have zero : Text.hexDigit? '0' = some 0 := by decide
  have unit : Text.hexValue? ['0', '0', Text.lowerHex (c.toNat / 16),
      Text.lowerHex (c.toNat % 16)] = some c.toNat := by
    simp only [Text.hexValue?, List.foldl_cons, List.foldl_nil, zero, high, low]
    exact congrArg some (by omega)
  have read : hexUnit.run ('0' :: '0' :: Text.lowerHex (c.toNat / 16) ::
      Text.lowerHex (c.toNat % 16) :: rest) = .ok (c.toNat, rest) := by
    simp [hexUnit, unit]
    rfl
  have below : ¬(0xDC00 ≤ c.toNat ∧ c.toNat ≤ 0xDFFF) := by omega
  have plain : c.toNat < 0xD800 ∨ 0xDBFF < c.toNat := by omega
  rw [unicodeEscape, run_bind read]
  simp only [Bool.not_true, Bool.false_eq_true, if_false, below, plain, if_true, Char.ofNat_toNat]
  rfl

/-- A character is read back in one turn, escaped or not. -/
theorem run_stringFrom_escapeChar (fuel : Nat) (taken : List Char) (c : Char) (rest : List Char) :
    (stringFrom true (fuel + 1) taken).run (Json.escapeChar c ++ rest) =
      (stringFrom true fuel (c :: taken)).run rest := by
  unfold Json.escapeChar
  repeat' split
  · subst c
    rfl
  · subst c
    rfl
  · subst c
    rfl
  · subst c
    rfl
  · subst c
    rfl
  · rename_i code
    obtain rfl : c = Char.ofNat 8 := by rw [← code, Char.ofNat_toNat]
    rfl
  · rename_i code
    obtain rfl : c = Char.ofNat 12 := by rw [← code, Char.ofNat_toNat]
    rfl
  · rename_i control
    have read : (escape true).run ('u' :: '0' :: '0' :: Text.lowerHex (c.toNat / 16) ::
        Text.lowerHex (c.toNat % 16) :: rest) = .ok (c, rest) := by
      rw [escape, run_bind (run_next 'u' _)]
      exact run_unicodeEscape control rest
    rw [stringFrom, List.cons_append, run_bind (run_next '\\' _)]
    exact run_bind read
  · rename_i noQuote noBackslash _ _ _ _ _ printable
    rw [stringFrom, List.cons_append, run_bind (run_next c _)]
    split
    · exact absurd rfl noQuote
    · exact absurd rfl noBackslash
    · rw [if_neg printable]
      rfl

theorem run_stringFrom (s : List Char) (rest : List Char) {fuel : Nat} (enough : s.length < fuel)
    (taken : List Char) :
    (stringFrom true fuel taken).run (s.flatMap Json.escapeChar ++ '"' :: rest) =
      .ok (String.ofList (taken.reverse ++ s), rest) := by
  induction s generalizing fuel taken with
  | nil =>
      obtain ⟨fuel, rfl⟩ := Nat.exists_eq_succ_of_ne_zero (Nat.ne_of_gt enough)
      rw [List.append_nil]
      rfl
  | cons c others ih =>
      obtain ⟨fuel, rfl⟩ := Nat.exists_eq_succ_of_ne_zero (Nat.ne_of_gt (Nat.zero_lt_of_lt enough))
      rw [List.flatMap_cons, List.append_assoc, run_stringFrom_escapeChar,
        ih (Nat.lt_of_succ_lt_succ enough), List.reverse_cons, List.append_assoc]
      rfl

theorem escapeChar_ne_nil (c : Char) : Json.escapeChar c ≠ [] := by
  unfold Json.escapeChar
  repeat' split
  all_goals exact List.cons_ne_nil _ _

theorem length_le_flatMap_escapeChar (s : List Char) :
    s.length ≤ (s.flatMap Json.escapeChar).length := by
  induction s with
  | nil => exact Nat.zero_le _
  | cons c others ih =>
      have first := List.length_pos_iff.2 (escapeChar_ne_nil c)
      rw [List.flatMap_cons, List.length_append, List.length_cons]
      omega

/-- **A string is read back**, from behind its opening quote. -/
theorem run_string (s : String) (rest : List Char) :
    string.run (s.toList.flatMap Json.escapeChar ++ '"' :: rest) = .ok (s, rest) := by
  have shorter := length_le_flatMap_escapeChar s.toList
  have enough :
      s.toList.length < (s.toList.flatMap Json.escapeChar ++ '"' :: rest).length + 1 := by
    rw [List.length_append]
    omega
  have read := run_stringFrom s.toList rest enough []
  rw [List.reverse_nil, List.nil_append, String.ofList_toList] at read
  exact read

theorem quote_append (s : String) (rest : List Char) :
    Json.quote s ++ rest = '"' :: (s.toList.flatMap Json.escapeChar ++ '"' :: rest) := by
  simp [Json.quote]

/-! ## What stands before a value -/

theorem dropWhile_lineBreak (depth : Nat) {c : Char} (visible : isGap c = false)
    (rest : List Char) : (Json.lineBreak depth ++ c :: rest).dropWhile isGap = c :: rest := by
  have blank : ∀ c ∈ Json.lineBreak depth, isGap c = true := by
    intro c member
    rcases List.mem_cons.1 member with rfl | space
    · rfl
    · rw [List.eq_of_mem_replicate space]
      rfl
  rw [List.dropWhile_append_of_pos blank, List.dropWhile_cons_of_neg (by simp [visible])]

/-- What stands before an item or an entry: a line break, and a comma unless it is the first. -/
def lead (first : Bool) (depth : Nat) : List Char :=
  if first then Json.lineBreak depth else ',' :: Json.lineBreak depth

theorem run_comma (rest : List Char) :
    peekPastGap.run (',' :: rest) = .ok (some ',', ',' :: rest) := rfl

theorem run_hasItem (first : Bool) (depth : Nat) {c : Char} (visible : isGap c = false)
    (other : c ≠ ']') (rest : List Char) :
    (hasItem first).run (lead first depth ++ c :: rest) = .ok (true, c :: rest) := by
  have broken := run_peekPastGap (dropWhile_lineBreak depth visible rest)
  cases first with
  | true =>
      rw [hasItem, lead, if_pos rfl, run_bind broken]
      split
      · contradiction
      · simp_all
      · rfl
  | false =>
      rw [hasItem, lead, if_neg Bool.false_ne_true, List.cons_append, run_bind (run_comma _)]
      change (skip >>= _).run _ = _
      rw [run_bind (run_skip ',' _), run_bind broken]
      split
      · contradiction
      · simp_all
      · rfl

/-- After the quote that a key is looked for by comes the key. -/
theorem run_quoted {next : Option Char → Reader (Option String)} {key : String}
    (past : text.dropWhile isGap = '"' :: more) (read : string.run more = .ok (key, rest))
    (opens : next (some '"') = (do skip; return some (← string))) :
    (peekPastGap >>= next).run text = .ok (some key, rest) := by
  rw [run_bind (run_peekPastGap past), opens, run_bind (run_skip '"' _), run_bind read]
  rfl

/-- A key is read back with its quotes. -/
theorem run_nextKey (first : Bool) (depth : Nat) (key : String) (rest : List Char) :
    (nextKey first true).run (lead first depth ++ (Json.quote key ++ rest)) =
      .ok (some key, rest) := by
  have visible : isGap '"' = false := by decide
  have broken := dropWhile_lineBreak depth visible
    (key.toList.flatMap Json.escapeChar ++ '"' :: rest)
  rw [quote_append]
  cases first with
  | true =>
      -- There is no comma, so the quote is looked for twice.
      rw [nextKey, lead, if_pos rfl, run_bind (run_peekPastGap broken)]
      exact run_quoted rfl (run_string key rest) rfl
  | false =>
      rw [nextKey, lead, if_neg Bool.false_ne_true, List.cons_append, run_bind (run_comma _)]
      change (skip >>= _).run _ = _
      rw [run_bind (run_skip ',' _)]
      exact run_quoted broken (run_string key rest) rfl

/-! ## Items and entries -/

/-- The value is read back from its text, wherever that stands and whatever follows it. -/
def ReadBack (value : Json) : Prop :=
  ∀ (depth fuel room : Nat) (text rest : List Char), sizeOf value ≤ fuel → sizeOf value < room →
    text.dropWhile isGap = value.prettyAt depth ++ rest →
      (valueFrom true fuel room).run text = .ok (value, rest)

/-- A value begins with a character that is neither white space nor a closing bracket. -/
theorem exists_prettyAt_cons {value : Json} (plain : value.Numberless) (depth : Nat) :
    ∃ c rest, value.prettyAt depth = c :: rest ∧ isGap c = false ∧ c ≠ ']' := by
  cases plain with
  | null => exact ⟨_, _, rfl, by decide, by decide⟩
  | bool value => cases value <;> exact ⟨_, _, rfl, by decide, by decide⟩
  | string value => exact ⟨_, _, rfl, by decide, by decide⟩
  | @array items _ => cases items <;> exact ⟨_, _, rfl, by decide, by decide⟩
  | @object entries _ => cases entries <;> exact ⟨_, _, rfl, by decide, by decide⟩

theorem dropWhile_prettyAt {value : Json} (plain : value.Numberless) (depth : Nat)
    (rest : List Char) :
    (value.prettyAt depth ++ rest).dropWhile isGap = value.prettyAt depth ++ rest := by
  obtain ⟨c, tail, shown, visible, _⟩ := exists_prettyAt_cons plain depth
  rw [shown, List.cons_append, List.dropWhile_cons_of_neg (by simp [visible])]

theorem run_itemsFrom_nil {fuel room : Nat} {first : Bool}
    (past : text.dropWhile isGap = ']' :: rest) :
    (itemsFrom true (fuel + 1) room first).run text = .ok ([], rest) := by
  have done : (hasItem first).run text = .ok (false, ']' :: rest) := by
    rw [hasItem, run_bind (run_peekPastGap past)]
    rfl
  rw [itemsFrom, run_bind done, if_neg Bool.false_ne_true, run_bind (run_skip ']' rest)]
  rfl

/-- One item is read, and then the others. -/
theorem run_itemsFrom_cons {value : Json} {others : List Json} (first : Bool) (depth : Nat)
    {fuel room : Nat} (plain : value.Numberless) (back : ReadBack value)
    (enough : sizeOf value ≤ fuel) (deep : sizeOf value < room)
    (read : (itemsFrom true fuel room false).run more = .ok (others, rest)) :
    (itemsFrom true (fuel + 1) room first).run
        (lead first depth ++ (value.prettyAt depth ++ more)) = .ok (value :: others, rest) := by
  obtain ⟨c, tail, shown, visible, other⟩ := exists_prettyAt_cons plain depth
  have item := back depth fuel room _ _ enough deep (dropWhile_prettyAt plain depth more)
  rw [shown, List.cons_append] at item ⊢
  rw [itemsFrom, run_bind (run_hasItem first depth visible other _), if_pos rfl, run_bind item,
    run_bind read]
  rfl

theorem run_itemsFrom {items : List Json} (plain : ∀ item ∈ items, item.Numberless)
    (back : ∀ item ∈ items, ReadBack item) (depth outer : Nat) {fuel room : Nat}
    (enough : sizeOf items ≤ fuel) (deep : sizeOf items < room) (rest : List Char) :
    (itemsFrom true fuel room false).run
        ((items.flatMap fun item => lead false depth ++ item.prettyAt depth) ++
          (Json.lineBreak outer ++ ']' :: rest)) = .ok (items, rest) := by
  induction items generalizing fuel with
  | nil =>
      obtain ⟨fuel, rfl⟩ := Nat.exists_eq_add_of_le' enough
      exact run_itemsFrom_nil (dropWhile_lineBreak outer (by decide) rest)
  | cons value others ih =>
      obtain ⟨here, later⟩ := List.forall_mem_cons.1 plain
      obtain ⟨backHere, backLater⟩ := List.forall_mem_cons.1 back
      rw [List.cons.sizeOf_spec] at enough deep
      obtain ⟨fuel, rfl⟩ : ∃ less, fuel = less + 1 := ⟨fuel - 1, by omega⟩
      rw [List.flatMap_cons, List.append_assoc, List.append_assoc]
      exact run_itemsFrom_cons false depth here backHere (by omega) (by omega)
        (ih later backLater (by omega) (by omega))

theorem run_entriesFrom_nil {fuel room : Nat} {first : Bool}
    (past : text.dropWhile isGap = '\x7d' :: rest) :
    (entriesFrom true (fuel + 1) room first).run text = .ok ([], rest) := by
  have done : (nextKey first true).run text = .ok (none, '\x7d' :: rest) := by
    rw [nextKey, run_bind (run_peekPastGap past)]
    rfl
  rw [entriesFrom, run_bind done]
  change (skip >>= _).run _ = _
  rw [run_bind (run_skip '\x7d' rest)]
  rfl

/-- How an entry is written after its lead. -/
def entryText (depth : Nat) (entry : String × Json) : List Char :=
  Json.quote entry.1 ++ ':' :: ' ' :: entry.2.prettyAt depth

/-- One entry is read, and then the others. -/
theorem run_entriesFrom_cons {entry : String × Json} {others : List (String × Json)}
    (first : Bool) (depth : Nat) {fuel room : Nat} (plain : entry.2.Numberless)
    (back : ReadBack entry.2) (enough : sizeOf entry.2 ≤ fuel) (deep : sizeOf entry.2 < room)
    (read : (entriesFrom true fuel room false).run more = .ok (others, rest)) :
    (entriesFrom true (fuel + 1) room first).run
        (lead first depth ++ (entryText depth entry ++ more)) = .ok (entry :: others, rest) := by
  obtain ⟨key, value⟩ := entry
  have item : (valueFrom true fuel room).run (' ' :: (value.prettyAt depth ++ more)) =
      .ok (value, more) := by
    refine back depth fuel room _ _ enough deep ?_
    rw [List.dropWhile_cons_of_pos rfl, dropWhile_prettyAt plain]
  rw [entryText, List.append_assoc, List.cons_append, List.cons_append, entriesFrom,
    run_bind (run_nextKey first depth key _)]
  change (colon >>= _).run _ = _
  rw [run_bind (run_colon _), run_bind item, run_bind read]
  rfl

theorem sizeOf_value_lt (entry : String × Json) : sizeOf entry.2 < sizeOf entry := by
  rw [Prod.mk.sizeOf_spec]
  omega

theorem run_entriesFrom {entries : List (String × Json)}
    (plain : ∀ entry ∈ entries, entry.2.Numberless) (back : ∀ entry ∈ entries, ReadBack entry.2)
    (depth outer : Nat) {fuel room : Nat} (enough : sizeOf entries ≤ fuel)
    (deep : sizeOf entries < room) (rest : List Char) :
    (entriesFrom true fuel room false).run
        ((entries.flatMap fun entry => lead false depth ++ entryText depth entry) ++
          (Json.lineBreak outer ++ '\x7d' :: rest)) = .ok (entries, rest) := by
  induction entries generalizing fuel with
  | nil =>
      obtain ⟨fuel, rfl⟩ := Nat.exists_eq_add_of_le' enough
      exact run_entriesFrom_nil (dropWhile_lineBreak outer (by decide) rest)
  | cons entry others ih =>
      obtain ⟨here, later⟩ := List.forall_mem_cons.1 plain
      obtain ⟨backHere, backLater⟩ := List.forall_mem_cons.1 back
      have inner := sizeOf_value_lt entry
      rw [List.cons.sizeOf_spec] at enough deep
      obtain ⟨fuel, rfl⟩ : ∃ less, fuel = less + 1 := ⟨fuel - 1, by omega⟩
      rw [List.flatMap_cons, List.append_assoc, List.append_assoc]
      exact run_entriesFrom_cons false depth here backHere (by omega) (by omega)
        (ih later backLater (by omega) (by omega))

end Reader

namespace Json

open Reader

/-! ## Arrays and objects -/

theorem prettyItems_cons (depth : Nat) (value : Json) (others : List Json) :
    prettyItems depth (value :: others) =
      lead true depth ++ (value.prettyAt depth ++
        others.flatMap fun item => lead false depth ++ item.prettyAt depth) := by
  induction others generalizing value with
  | nil => simp [prettyItems, lead]
  | cons next others ih =>
      rw [prettyItems, ih]
      · simp [lead]
      · simp

theorem prettyEntries_cons (depth : Nat) (entry : String × Json) (others : List (String × Json)) :
    prettyEntries depth (entry :: others) =
      lead true depth ++ (entryText depth entry ++
        others.flatMap fun entry => lead false depth ++ entryText depth entry) := by
  induction others generalizing entry with
  | nil => simp [prettyEntries, lead, entryText]
  | cons next others ih =>
      obtain ⟨key, value⟩ := entry
      rw [prettyEntries, ih]
      · simp [lead, entryText]
      · simp

/-- The items of an array are read back, from behind its opening bracket. -/
theorem exists_items {items : List Json} (plain : ∀ item ∈ items, item.Numberless)
    (back : ∀ item ∈ items, ReadBack item) (depth : Nat) {fuel room : Nat}
    (enough : sizeOf items ≤ fuel) (deep : sizeOf items < room) (rest : List Char) :
    ∃ tail, (array items).prettyAt depth ++ rest = '[' :: tail ∧
      (itemsFrom true fuel room true).run tail = .ok (items, rest) := by
  cases items with
  | nil =>
      obtain ⟨fuel, rfl⟩ := Nat.exists_eq_add_of_le' enough
      exact ⟨']' :: rest, rfl, run_itemsFrom_nil rfl⟩
  | cons first others =>
      obtain ⟨here, later⟩ := List.forall_mem_cons.1 plain
      obtain ⟨backHere, backLater⟩ := List.forall_mem_cons.1 back
      rw [List.cons.sizeOf_spec] at enough deep
      obtain ⟨fuel, rfl⟩ : ∃ less, fuel = less + 1 := ⟨fuel - 1, by omega⟩
      refine ⟨_, ?_, run_itemsFrom_cons true (depth + 1) here backHere (by omega) (by omega)
        (run_itemsFrom later backLater (depth + 1) depth (by omega) (by omega) rest)⟩
      simp only [prettyAt, prettyItems_cons, List.cons_append, List.append_assoc, List.nil_append]

/-- The entries of an object are read back, from behind its opening brace. -/
theorem exists_entries {entries : List (String × Json)}
    (plain : ∀ entry ∈ entries, entry.2.Numberless) (back : ∀ entry ∈ entries, ReadBack entry.2)
    (depth : Nat) {fuel room : Nat} (enough : sizeOf entries ≤ fuel)
    (deep : sizeOf entries < room) (rest : List Char) :
    ∃ tail, (object entries).prettyAt depth ++ rest = '\x7b' :: tail ∧
      (entriesFrom true fuel room true).run tail = .ok (entries, rest) := by
  cases entries with
  | nil =>
      obtain ⟨fuel, rfl⟩ := Nat.exists_eq_add_of_le' enough
      exact ⟨'\x7d' :: rest, rfl, run_entriesFrom_nil rfl⟩
  | cons first others =>
      obtain ⟨here, later⟩ := List.forall_mem_cons.1 plain
      obtain ⟨backHere, backLater⟩ := List.forall_mem_cons.1 back
      have inner := sizeOf_value_lt first
      rw [List.cons.sizeOf_spec] at enough deep
      obtain ⟨fuel, rfl⟩ : ∃ less, fuel = less + 1 := ⟨fuel - 1, by omega⟩
      refine ⟨_, ?_, run_entriesFrom_cons true (depth + 1) here backHere (by omega) (by omega)
        (run_entriesFrom later backLater (depth + 1) depth (by omega) (by omega) rest)⟩
      simp only [prettyAt, prettyEntries_cons, List.cons_append, List.append_assoc, List.nil_append]

/-! ## Values -/

/-- There is fuel for a value, so the reader takes a turn. -/
theorem readBack_of_turn {value : Json}
    (turn : ∀ (depth fuel room : Nat) (text rest : List Char), sizeOf value ≤ fuel + 1 →
      sizeOf value < room → text.dropWhile isGap = value.prettyAt depth ++ rest →
        (valueFrom true (fuel + 1) room).run text = .ok (value, rest)) : ReadBack value := by
  intro depth fuel room text rest enough deep past
  have positive : 0 < sizeOf value := by
    cases value <;> simp +arith
  obtain ⟨fuel, rfl⟩ : ∃ less, fuel = less + 1 := ⟨fuel - 1, by omega⟩
  exact turn depth fuel room text rest enough deep past

theorem readBack_null : ReadBack .null := by
  refine readBack_of_turn fun depth fuel room text rest _ _ past => ?_
  rw [valueFrom, run_bind (run_peekPastGap past)]
  exact run_bind (run_word "null".toList rest)

theorem readBack_bool (value : Bool) : ReadBack (.bool value) := by
  refine readBack_of_turn fun depth fuel room text rest _ _ past => ?_
  cases value with
  | true =>
      rw [valueFrom, run_bind (run_peekPastGap past)]
      exact run_bind (run_word "true".toList rest)
  | false =>
      rw [valueFrom, run_bind (run_peekPastGap past)]
      exact run_bind (run_word "false".toList rest)

theorem readBack_string (value : String) : ReadBack (.string value) := by
  refine readBack_of_turn fun depth fuel room text rest _ _ past => ?_
  have quoted := past.trans (quote_append value rest)
  rw [valueFrom, run_bind (run_peekPastGap quoted)]
  change (skip >>= _).run _ = _
  rw [run_bind (run_skip '"' _), run_bind (run_string value rest)]
  rfl

theorem readBack_array {items : List Json} (plain : ∀ item ∈ items, item.Numberless)
    (back : ∀ item ∈ items, ReadBack item) : ReadBack (.array items) := by
  refine readBack_of_turn fun depth fuel room text rest enough deep past => ?_
  rw [array.sizeOf_spec] at enough deep
  have fueled : sizeOf items ≤ fuel := by omega
  have roomy : sizeOf items < room - 1 := by omega
  have opens : ¬room ≤ 1 := by omega
  obtain ⟨tail, shown, read⟩ := exists_items plain back depth fueled roomy rest
  rw [valueFrom, run_bind (run_peekPastGap (past.trans shown))]
  simp only [if_neg opens]
  rw [run_bind (run_skip '[' _), run_bind read]
  rfl

theorem readBack_object {entries : List (String × Json)}
    (plain : ∀ entry ∈ entries, entry.2.Numberless) (back : ∀ entry ∈ entries, ReadBack entry.2) :
    ReadBack (.object entries) := by
  refine readBack_of_turn fun depth fuel room text rest enough deep past => ?_
  rw [object.sizeOf_spec] at enough deep
  have fueled : sizeOf entries ≤ fuel := by omega
  have roomy : sizeOf entries < room - 1 := by omega
  have opens : ¬room ≤ 1 := by omega
  obtain ⟨tail, shown, read⟩ := exists_entries plain back depth fueled roomy rest
  rw [valueFrom, run_bind (run_peekPastGap (past.trans shown))]
  simp only [if_neg opens]
  rw [run_bind (run_skip '\x7b' _), run_bind read]
  rfl

/-- **A value without numbers is read back from its text.** -/
theorem Numberless.readBack {value : Json} (plain : value.Numberless) : ReadBack value := by
  induction plain with
  | null => exact readBack_null
  | bool value => exact readBack_bool value
  | string value => exact readBack_string value
  | array each ih => exact readBack_array each ih
  | object each ih => exact readBack_object each ih

/-- **Two values without numbers have two texts.** -/
theorem Numberless.eq_of_pretty {first second : Json} (left : first.Numberless)
    (right : second.Numberless) (same : first.pretty = second.pretty) : first = second := by
  have texts : first.prettyAt 0 = second.prettyAt 0 := String.ofList_injective same
  -- One reader has fuel and room for both.
  let room := sizeOf first + sizeOf second + 1
  have read {value : Json} (plain : value.Numberless) (deep : sizeOf value < room) :
      (valueFrom true room room).run (value.prettyAt 0) = .ok (value, []) := by
    refine plain.readBack 0 room room _ [] (Nat.le_of_lt deep) deep ?_
    have stays := dropWhile_prettyAt plain 0 []
    rwa [List.append_nil] at stays ⊢
  have one := read left (by omega)
  rw [texts, read right (by omega)] at one
  cases one
  rfl

end Json

end InputDocs

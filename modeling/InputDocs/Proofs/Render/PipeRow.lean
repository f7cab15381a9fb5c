import InputDocs.Proofs.Manifest.Tidy
import InputDocs.Proofs.Text.Bars

/-!
# Proofs.Render.PipeRow -- rows that stay in their columns

A row of a table is one line, and its columns are parted by bars: five bars for four columns. Any
other bar must have a backslash immediately before it (`IsPipeRow`).

What stands in a cell is escaped, piece by piece, and no piece brings in a bare bar or a line feed.
Two texts are not escaped: the name of the row, which stands between backquotes, and the name of the
nested type that the row links to, with its anchor. The type is named after the row, and a name in
another case has no more bare bars than before. So a row stays in its columns exactly if its name
has no line feed and no bare bar (`isPipeRow_rowText_iff`).

The rows of nested tables are named by words, so all of them do (`nestedRow_isPipeRow`). The rows of
inputs are named by the variables, which any text can be (`inputRow_isPipeRow_iff`).
-/

namespace InputDocs.Render

set_option autoImplicit false

open Text (bareBars)

/-- A line with the five bars of a row of four columns and no other bare bars. -/
def IsPipeRow (line : List Char) : Prop := '\n' ∉ line ∧ bareBars line = 5

instance (line : List Char) : Decidable (IsPipeRow line) := inferInstanceAs (Decidable (_ ∧ _))

/-- The head of a table is a row like the others. -/
example : ∀ line ∈ tableHead, IsPipeRow line.toList := by decide

/-! ## Cells -/

theorem bareBars_escapeCell (text : String) : bareBars (escapeCell text).toList = 0 := by
  rw [escapeCell, String.toList_ofList]
  refine Text.bareBars_flatMap_eq_zero ?_
  intro c _
  unfold escapeCellChar
  split
  · decide
  · split
    · decide
    · rename_i noBar _
      exact Text.bareBars_of_notMem (by simpa using Ne.symm noBar)

theorem bareBars_codeSpan {text : String} (none : bareBars text.toList = 0) :
    bareBars (codeSpan text).toList = 0 := by
  unfold codeSpan
  split
  · rfl
  · rw [String.toList_append, String.toList_append]
    exact Text.bareBars_append_eq_zero (Text.bareBars_append_eq_zero (by decide) none) (by decide)

theorem bareBars_descriptionCell (row : Row) : bareBars (descriptionCell row).toList = 0 := by
  have apart (first second : List Char) :
      bareBars (first ++ ("<br>".toList ++ second)) = bareBars first + bareBars second := by
    change bareBars (first ++ '<' :: 'b' :: 'r' :: '>' :: second) = _
    rw [Text.bareBars_append_mark (by decide) (by decide)]
    simp only [Text.bareBars_mark, ne_eq, Char.reduceEq, not_false_eq_true]
  rw [descriptionCell, String.toList_intercalate, Text.bareBars_intercalate_eq_zero_iff apart]
  simp only [List.map_map, List.mem_map, Function.comp_apply, forall_exists_index, and_imp]
  rintro _ text _ rfl
  exact bareBars_escapeCell text

/-- In the type of a row only the name of the nested type and its anchor are not escaped. -/
theorem bareBars_typeCell {row : Row} (named : ∀ name ∈ row.typeName, bareBars name.toList = 0) :
    bareBars (typeCell row).toList = 0 := by
  unfold typeCell
  split
  · rename_i name anchor before after mentioned anchored _
    have title : bareBars name.toList = 0 := named name mentioned
    have target : bareBars anchor.toList = 0 := by
      rw [Row.anchor, mentioned, Option.map_some, Option.some_inj] at anchored
      rw [← anchored, String.toList_ofList]
      have lowered := Text.bareBars_respelled_le (Unicode.respelled_lowercase name.toList)
      omega
    simp only [String.toList_append]
    refine Text.bareBars_append_eq_zero ?_ (bareBars_escapeCell after)
    refine Text.bareBars_append_eq_zero ?_ (by decide)
    refine Text.bareBars_append_eq_zero ?_ target
    refine Text.bareBars_append_eq_zero ?_ (by decide)
    refine Text.bareBars_append_eq_zero ?_ title
    exact Text.bareBars_append_eq_zero (bareBars_escapeCell before) (by decide)
  · exact bareBars_codeSpan (bareBars_escapeCell row.signature)

theorem feed_notMem_typeCell {row : Row} (named : ∀ name ∈ row.typeName, '\n' ∉ name.toList) :
    '\n' ∉ (typeCell row).toList := by
  unfold typeCell
  split
  · rename_i name anchor before after mentioned anchored _
    have title : '\n' ∉ name.toList := named name mentioned
    have target : '\n' ∉ anchor.toList := by
      rw [Row.anchor, mentioned, Option.map_some, Option.some_inj] at anchored
      rw [← anchored, String.toList_ofList]
      exact Unicode.notMem_lowercase (by decide) title
    simp [title, target, feed_notMem_escapeCell]
  · exact feed_notMem_codeSpan (feed_notMem_escapeCell row.signature)

/-! ## Rows -/

theorem toList_rowText (row : Row) :
    (rowText row).toList = '|' :: ' ' :: '`' :: (row.name.toList ++
      '`' :: ' ' :: '|' :: ' ' :: ((typeCell row).toList ++
        ' ' :: '|' :: ' ' :: ((codeSpan (escapeCell row.default)).toList ++
          ' ' :: '|' :: ' ' :: ((descriptionCell row).toList ++ [' ', '|'])))) := by
  simp [rowText]

/-- Beside its five own bars a row has those of its name and of its type. -/
theorem bareBars_rowText (row : Row) :
    bareBars (rowText row).toList =
      5 + bareBars row.name.toList + bareBars (typeCell row).toList := by
  have default := bareBars_codeSpan (bareBars_escapeCell row.default)
  have description := bareBars_descriptionCell row
  rw [toList_rowText]
  simp only [Text.bareBars_bar, Text.bareBars_mark, Text.bareBars_append_mark, Text.bareBars_nil,
    default, description, ne_eq, Char.reduceEq, not_false_eq_true]
  omega

theorem feed_notMem_rowText {row : Row} (named : ∀ name ∈ row.typeName, '\n' ∉ name.toList)
    (single : '\n' ∉ row.name.toList) : '\n' ∉ (rowText row).toList := by
  have type := feed_notMem_typeCell named
  have default := feed_notMem_codeSpan (feed_notMem_escapeCell row.default)
  have description := feed_notMem_descriptionCell row
  rw [toList_rowText]
  simp [single, type, default, description]

/-- A type name has bare bars only if the name that it is made from has some. -/
theorem bareBars_typeName {name : String} (none : bareBars name.toList = 0) :
    bareBars (typeName name).toList = 0 := by
  unfold typeName
  dsimp only
  split
  · decide
  · rw [String.toList_ofList]
    refine Text.bareBars_flatMap_eq_zero ?_
    intro part among
    have bare := Text.bareBars_of_mem_splitOn (by decide) (by decide) none among
    have capital := Text.bareBars_respelled_le (Unicode.respelled_capitalize part)
    omega

/-- **A row whose type is named after it stays in its columns** exactly if its name has no line feed
and no bare bar. -/
theorem isPipeRow_rowText_iff {row : Row}
    (named : ∀ type ∈ row.typeName, type = typeName row.name) :
    IsPipeRow (rowText row).toList ↔ '\n' ∉ row.name.toList ∧ bareBars row.name.toList = 0 := by
  rw [IsPipeRow, bareBars_rowText]
  constructor
  · rintro ⟨single, bars⟩
    refine ⟨?_, by omega⟩
    intro feed
    rw [toList_rowText] at single
    simp [feed] at single
  · rintro ⟨single, none⟩
    have type : bareBars (typeCell row).toList = 0 := by
      refine bareBars_typeCell ?_
      intro name mentioned
      rw [named name mentioned]
      exact bareBars_typeName none
    refine ⟨feed_notMem_rowText ?_ single, by omega⟩
    intro name mentioned
    rw [named name mentioned]
    exact Field.feed_notMem_typeName single

/-! ## The tables of a manifest -/

variable [PatternEngine] {options : Options} {inputs : List Variable}

/-- **Every row of a nested table stays in its columns**, whatever the types, comments, directives
and defaults are. -/
theorem nestedRow_isPipeRow {key : String} {table : Table} {row : Row}
    (found : (Manifest.ofVariables options inputs).nested[key]? = some table)
    (member : row ∈ table.rows) : IsPipeRow (rowText row).toList := by
  have word := Manifest.word_of_mem_rows found row member
  refine (isPipeRow_rowText_iff (Manifest.typeName_of_hasRow (.nested found member))).2 ⟨?_, ?_⟩
  · exact Field.notMem_of_word (by decide) word
  · exact Text.bareBars_of_notMem (Field.notMem_of_word (by decide) word)

omit [PatternEngine] in
/-- A key with bars and line feeds in its type, its default, its comment and its directives. -/
theorem nestedRow_isPipeRow_mode :
    let _ : PatternEngine := .lenient
    let net : Variable :=
      { name := "net"
        type := "object(\x7b\n/** one | two\n * three\n * @enum on | off\n" ++
          " * @see http://a|b */\nmode = optional(set(\"x|y\"), \"on|\\\n\")\n\x7d)" }
    let text := "| `mode` | `set(\"x\\|y\")` | `\"on\\|\\<br>\"` | " ++
      "one \\| two<br>three<br>**Enum:** on \\| off<br>**See:** <http://a\\|b> |"
    ∃ table, (Manifest.ofVariables {} [net]).nested["Net"]? = some table ∧
      ∃ row ∈ table.rows, rowText row = text ∧ IsPipeRow (rowText row).toList := by
  intro _ net text
  obtain ⟨⟨key, table⟩, listed, named, row, member, shown⟩ :
      ∃ entry ∈ (Manifest.ofVariables {} [net]).nested.toList, entry.1 = "Net" ∧
        ∃ row ∈ entry.2.rows, rowText row = text := by
    decide +kernel
  obtain rfl : key = "Net" := named
  have found := Std.ExtTreeMap.mem_toList_iff_getElem?_eq_some.1 listed
  exact ⟨table, found, row, member, shown, nestedRow_isPipeRow found member⟩

/-- **A row of an input stays in its columns** exactly if the name of the input has no line feed and
no bare bar. -/
theorem inputRow_isPipeRow_iff {row : Row}
    (member : row ∈ (Manifest.ofVariables options inputs).required.rows ∨
      row ∈ (Manifest.ofVariables options inputs).optional.rows) :
    IsPipeRow (rowText row).toList ↔ '\n' ∉ row.name.toList ∧ bareBars row.name.toList = 0 := by
  have has : (Manifest.ofVariables options inputs).HasRow row := by
    rcases member with required | optional
    · exact .required required
    · exact .optional optional
  exact isPipeRow_rowText_iff (Manifest.typeName_of_hasRow has)

omit [PatternEngine] in
/-- The name of an input with a bar behind a backslash, and so the name of its nested type. -/
theorem inputRow_isPipeRow_escaped :
    let _ : PatternEngine := .lenient
    let input : Variable := { name := "on\\|off", type := "object(\x7b a = any \x7d)" }
    ∃ row ∈ (Manifest.ofVariables {} [input]).optional.rows,
      rowText row = "| `on\\|off` | object([On\\|off](#on\\|off)) |  |  |" ∧
        IsPipeRow (rowText row).toList := by
  intro _ input
  obtain ⟨row, member, shown, named⟩ :
      ∃ row ∈ (Manifest.ofVariables {} [input]).optional.rows,
        rowText row = "| `on\\|off` | object([On\\|off](#on\\|off)) |  |  |" ∧
          row.name = "on\\|off" := by
    decide +kernel
  refine ⟨row, member, shown, (inputRow_isPipeRow_iff (.inr member)).2 ?_⟩
  rw [named]
  decide

omit [PatternEngine] in
/-- The name of an input with a bare bar gives its row a column more, and one with a line feed gives
it a line more. -/
theorem inputRow_not_isPipeRow :
    let _ : PatternEngine := .lenient
    let bar : Variable := { name := "on|off", isRequired := true }
    let feed : Variable := { name := "on\noff" }
    (∃ row ∈ (Manifest.ofVariables {} [bar, feed]).required.rows,
        rowText row = "| `on|off` |  |  |  |" ∧ ¬ IsPipeRow (rowText row).toList) ∧
      ∃ row ∈ (Manifest.ofVariables {} [bar, feed]).optional.rows,
        rowText row = "| `on\noff` |  |  |  |" ∧ ¬ IsPipeRow (rowText row).toList := by
  decide +kernel

end InputDocs.Render

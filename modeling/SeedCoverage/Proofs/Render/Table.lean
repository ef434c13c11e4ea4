import Mathlib.Algebra.GroupWithZero.Nat
import Mathlib.Data.List.Forall2
import SeedCoverage.Proofs.Catalog.Lookup
import SeedCoverage.Proofs.Reading.Identifier
import SeedCoverage.Proofs.Text.Pieces
import SeedCoverage.Render.Markdown

/-! Tables in markdown, as a reader of markdown takes them apart: at line feeds into rows, and at pipes that
are not escaped into cells. Every label comes out of its row again; a row is one line where the label is. -/
namespace SeedCoverage.Render.Markdown

open Text

variable {before : Option Char} {text : Text} {cells : List Text} {catalog : Catalog}
  {table : TableCount} {report : Report}

section Cells

/-- A text cut at the pipes that have no backslash right before them; `before` stands before the text. -/
def cutBare (before : Option Char) : Text → List Text
  | [] => [[]]
  | c :: rest =>
    if c = '|' ∧ before ≠ some '\\' then [] :: cutBare (some c) rest
    else (cutBare (some c) rest).modifyHead (c :: ·)

/-- Every backslash before a pipe is taken away. -/
def unescape : Text → Text
  | '\\' :: '|' :: rest => '|' :: unescape rest
  | c :: rest => c :: unescape rest
  | [] => []

/-- Every pipe has a backslash right before it. -/
def Escaped (before : Option Char) : Text → Prop
  | [] => True
  | c :: rest => (c = '|' → before = some '\\') ∧ Escaped (some c) rest

/-- A blank on either side. -/
def pad (text : Text) : Text := ' ' :: text ++ [' ']

/-- What a row has of a cell, the pipe behind it included. -/
def framed (text : Text) : Text := ' ' :: text ++ [' ', '|']

theorem cell_cons (c : Char) (rest : Text) :
    cell (c :: rest) = (if c = '|' then ['\\', '|'] else [c]) ++ cell rest := rfl

theorem escaped_cell (before : Option Char) (text : Text) : Escaped before (cell text) := by
  induction text generalizing before with
  | nil => trivial
  | cons c rest ih =>
    rw [cell_cons]
    split
    · exact ⟨fun pipe => absurd pipe (by decide), fun _ => rfl, ih _⟩
    · rename_i other
      exact ⟨fun pipe => absurd pipe other, ih _⟩

theorem escaped_of_notMem (absent : '|' ∉ text) : Escaped before text := by
  induction text generalizing before with
  | nil => trivial
  | cons c rest ih =>
    rw [List.mem_cons, not_or] at absent
    exact ⟨fun pipe => absurd pipe.symm absent.1, ih absent.2⟩

/-- A pipe of a cell is behind a backslash, and a backslash of the text is not before one. -/
theorem unescape_cell (text : Text) : unescape (cell text) = text := by
  have start (rest tail : Text) : cell rest ≠ '|' :: tail := by
    intro pipe
    have escaped := escaped_cell none rest
    rw [pipe] at escaped
    cases escaped.1 rfl
  induction text with
  | nil => rfl
  | cons c rest ih =>
    rw [cell_cons]
    split
    · rename_i pipe
      rw [pipe, List.cons_append, List.cons_append, List.nil_append, unescape, ih]
    · rw [List.cons_append, List.nil_append, unescape.eq_2, ih]
      exact fun tail _ pipe => start rest tail pipe

theorem cutBare_escaped (escaped : Escaped before text) (rest : Text) :
    cutBare before (text ++ ' ' :: '|' :: rest) = (text ++ [' ']) :: cutBare (some '|') rest := by
  induction text generalizing before with
  | nil => simp [cutBare]
  | cons c text ih =>
    obtain ⟨first, others⟩ := escaped
    have whole : ¬(c = '|' ∧ before ≠ some '\\') := fun ⟨pipe, bare⟩ => bare (first pipe)
    rw [List.cons_append, cutBare, if_neg whole, ih others]
    rfl

theorem row_eq (filled : cells ≠ []) : row cells = '|' :: cells.flatMap framed := by
  have joined : row cells = '|' :: ' ' :: (join " | " cells ++ " |".toList) := rfl
  rw [joined, List.cons_inj_right]
  fun_induction join " | " cells with
  | case1 => exact absurd rfl filled
  | case2 only => simp [framed]
  | case3 first rest more ih =>
    have later := ih more (by rfl)
    rw [List.flatMap_cons, ← later]
    simp [framed]

theorem cutBare_framed (escaped : ∀ text ∈ cells, Escaped (some ' ') text) :
    cutBare (some '|') (cells.flatMap framed) = cells.map pad ++ [[]] := by
  induction cells with
  | nil => rfl
  | cons first rest ih =>
    obtain ⟨here, others⟩ := List.forall_mem_cons.mp escaped
    have padded : Escaped (some '|') (' ' :: first) := ⟨by decide, here⟩
    have cut := cutBare_escaped padded (rest.flatMap framed)
    rw [ih others] at cut
    rw [List.flatMap_cons, framed, List.append_assoc]
    exact cut

theorem cutBare_row (filled : cells ≠ []) (escaped : ∀ text ∈ cells, Escaped (some ' ') text) :
    cutBare none (row cells) = [] :: cells.map pad ++ [[]] := by
  rw [row_eq filled, cutBare, if_pos (by decide), cutBare_framed escaped]
  rfl

end Cells

section Rows

/-- A line of six cells, of which the first shows the label of a table. -/
def ShowsLabel (table : TableCount) (line : Text) : Prop :=
  ∃ label others, cutBare none line = [] :: (pad label :: others) ++ [[]] ∧ others.length = 5 ∧
    unescape label = table.spec.label

theorem notMem_identifier {mark : Char} {name : Text} (named : IsIdentifier name)
    (other : Sql.isWordChar mark = false) : mark ∉ name := fun member =>
  Sql.ne_of_wordChar (Sql.wordChar_of_mem (isIdentifier_iff.mpr named) _ member) other rfl

theorem notMem_code {mark : Char} {name : Text} (named : IsIdentifier name)
    (other : Sql.isWordChar mark = false) (tick : mark ≠ '\x60') : mark ∉ code name := by
  simp [code, notMem_identifier named other, tick]

theorem notMem_percentage {mark : Char} {value : Nat} (other : mark.isDigit = false) (percent : mark ≠ '%') :
    mark ∉ percentage value := by
  have absent : mark ∉ ofNat value := notMem_ofNat other
  simp [percentage, absent, percent]

theorem showsLabel_tableRow (sound : table.spec.WellFormed) : ShowsLabel table (tableRow table) := by
  have number (value : Nat) : Escaped (some ' ') (ofNat value) := escaped_of_notMem (notMem_ofNat (by decide))
  have name : Escaped (some ' ') (code table.spec.name) :=
    escaped_of_notMem (notMem_code sound.named (by decide) (by decide))
  have part : Escaped (some ' ') (percentage table.count.percent) :=
    escaped_of_notMem (notMem_percentage (by decide) (by decide))
  refine ⟨cell table.spec.label, _, cutBare_row (List.cons_ne_nil _ _) ?_, rfl, unescape_cell _⟩
  simp only [List.forall_mem_cons]
  exact ⟨escaped_cell _ _, name, number _, escaped_cell _ _, number _, part, by simp⟩

theorem count_cell : (cell text).count '\n' = text.count '\n' := by
  induction text with
  | nil => rfl
  | cons c rest ih =>
    rw [cell_cons, List.count_append, ih, ← List.singleton_append (l := rest), List.count_append]
    split
    · rename_i pipe
      rw [pipe]
      rfl
    · rfl

theorem count_row (filled : cells ≠ []) :
    (row cells).count '\n' = (cells.map (List.count '\n')).sum := by
  have each (text : Text) : (framed text).count '\n' = text.count '\n' := by simp [framed]
  rw [row_eq filled, List.count_cons_of_ne (by decide), List.count_flatMap]
  exact congrArg List.sum (List.map_congr_left fun text _ => each text)

theorem count_tableRow (sound : table.spec.WellFormed) :
    (tableRow table).count '\n' = table.spec.label.count '\n' := by
  have number (value : Nat) : (ofNat value).count '\n' = 0 := List.count_eq_zero.mpr (notMem_ofNat (by decide))
  have name : (code table.spec.name).count '\n' = 0 :=
    List.count_eq_zero.mpr (notMem_code sound.named (by decide) (by decide))
  have part : (percentage table.count.percent).count '\n' = 0 :=
    List.count_eq_zero.mpr (notMem_percentage (by decide) (by decide))
  have required : (fields table.spec.required).count '\n' = 0 := by
    rw [fields, count_cell, List.count_eq_zero]
    intro member
    rcases mem_join member with separator | ⟨field, present, inside⟩
    · exact absurd separator (by decide)
    · exact notMem_identifier (sound.fields field present) (by decide) inside
  simp [tableRow, count_row, count_cell, number, name, part, required]

end Rows

section Document

/-- Below the heading one line for every table, in order, that shows its label, then the line of totals. -/
def Tabular (report : Report) (text : Text) : Prop :=
  ∃ rows, splitOn '\n' text = heading ++ rows ++ [totalRow report, []] ∧
    List.Forall₂ ShowsLabel report.rows rows

theorem Tabular.length (tabular : Tabular report text) :
    (splitOn '\n' text).length = report.rows.length + 6 := by
  obtain ⟨rows, cut, shown⟩ := tabular
  rw [cut, shown.length_eq]
  simp [heading]

theorem report_eq (silent : report.notes = []) :
    Markdown.report report false = lines (heading ++ report.rows.map tableRow ++ [totalRow report]) := by
  simp [Markdown.report, silent, noteLines]

theorem count_lines (rows : List Text) :
    (lines rows).count '\n' = rows.length + (rows.map (List.count '\n')).sum := by
  induction rows with
  | nil => rfl
  | cons row rest ih =>
    rw [lines_cons, List.count_append, List.count_cons_self, ih, List.length_cons, List.map_cons, List.sum_cons]
    omega

theorem notMem_totalRow (report : Report) : '\n' ∉ totalRow report := by
  have number (value : Nat) : '\n' ∉ ofNat value := notMem_ofNat (by decide)
  have part (value : Nat) : '\n' ∉ percentage value := notMem_percentage (by decide) (by decide)
  unfold totalRow
  simp only [List.mem_append, number, part, or_false]
  decide

theorem notMem_heading : ∀ line ∈ heading, '\n' ∉ line := by decide

/-- A report of six more lines than tables, and of as many further ones as there are line feeds in labels. -/
theorem length_report (sound : ∀ table ∈ report.rows, table.spec.WellFormed) (silent : report.notes = []) :
    (splitOn '\n' (Markdown.report report false)).length =
      report.rows.length + 6 + (report.rows.map fun table => table.spec.label.count '\n').sum := by
  have above : (heading.map (List.count '\n')).sum = 0 := by decide
  have total : (totalRow report).count '\n' = 0 := List.count_eq_zero.mpr (notMem_totalRow report)
  have between : ((report.rows.map tableRow).map (List.count '\n')).sum =
      (report.rows.map fun table => table.spec.label.count '\n').sum := by
    rw [List.map_map]
    exact congrArg List.sum (List.map_congr_left fun table present => count_tableRow (sound table present))
  rw [length_splitOn, report_eq silent, count_lines, List.map_append, List.map_append, List.sum_append,
    List.sum_append, above, between]
  simp [total, heading]
  omega

/-- Labels without line feeds leave every row on a line. -/
theorem tabular_report (sound : ∀ table ∈ report.rows, table.spec.WellFormed) (silent : report.notes = [])
    (single : ∀ table ∈ report.rows, '\n' ∉ table.spec.label) :
    Tabular report (Markdown.report report false) := by
  have line : ∀ row ∈ report.rows.map tableRow, '\n' ∉ row := by
    intro row member
    obtain ⟨table, present, rfl⟩ := List.mem_map.mp member
    rw [← List.count_eq_zero, count_tableRow (sound table present), List.count_eq_zero]
    exact single table present
  have lines : ∀ row ∈ heading ++ report.rows.map tableRow ++ [totalRow report], '\n' ∉ row := by
    simp only [List.forall_mem_append, List.forall_mem_singleton]
    exact ⟨⟨notMem_heading, line⟩, notMem_totalRow report⟩
  refine ⟨report.rows.map tableRow, ?_, ?_⟩
  · rw [report_eq silent, splitOn_lines lines, List.append_assoc]
    rfl
  · exact List.forall₂_map_right_iff.mpr
      (List.forall₂_same.mpr fun table present => showsLabel_tableRow (sound table present))

/-- Every row of a report shows the label of its table, whatever is in it. A report without notes has as many
lines beside those of the tables and its six own as there are line feeds in the labels; its rows stand below
each other, a line for each, just where no label holds one. -/
theorem report_tabular_iff (listed : report.rows.map TableCount.spec = catalog.tables)
    (silent : report.notes = []) :
    (∀ table ∈ report.rows, ShowsLabel table (tableRow table)) ∧
    (splitOn '\n' (Markdown.report report false)).length =
      catalog.tables.length + 6 + (catalog.tables.map fun spec => spec.label.count '\n').sum ∧
    (Tabular report (Markdown.report report false) ↔ ∀ spec ∈ catalog.tables, '\n' ∉ spec.label) := by
  have sound : ∀ table ∈ report.rows, table.spec.WellFormed := fun table present =>
    catalog.consistent.each _ (listed ▸ List.mem_map_of_mem present)
  simp only [← listed, List.length_map, List.map_map, List.forall_mem_map]
  refine ⟨fun table present => showsLabel_tableRow (sound table present),
    length_report sound silent, fun tabular table present => ?_, tabular_report sound silent⟩
  have none_more : (report.rows.map fun table => table.spec.label.count '\n').sum = 0 := by
    have short := tabular.length
    have long := length_report sound silent
    omega
  exact List.count_eq_zero.mp
    (List.sum_eq_zero_iff_forall_eq_nat.mp none_more _ (List.mem_map_of_mem present))

/-- A table that is labelled so. -/
def labelled (label : Text) : TableSpec := ⟨label, "items", ["name"], none⟩

/-- The report of no rows for it. -/
def unfilled (label : Text) : Report where
  source := .files
  rows := [⟨labelled label, {}⟩]

/-- Pipes and backslashes, next to each other and at the end. -/
def piped : Text := "Swords \\| shields\\"

theorem report_piped :
    catalogFault? [labelled piped] = none ∧
      (unfilled piped).rows.map TableCount.spec = [labelled piped] ∧ (unfilled piped).notes = [] ∧
        Tabular (unfilled piped) (Markdown.report (unfilled piped) false) := by
  have sound : catalogFault? [labelled piped] = none := by decide +kernel
  have single : ∀ spec ∈ [labelled piped], '\n' ∉ spec.label := by decide
  obtain ⟨-, -, iff⟩ := @report_tabular_iff ⟨_, sound⟩ (unfilled piped) rfl rfl
  exact ⟨sound, rfl, rfl, iff.mpr single⟩

/-- A line feed, which is no fault in a label. -/
def broken : Text := "Two\nlines"

/-- The row is in two pieces, and what belongs under the headings is in the second. -/
theorem report_broken :
    catalogFault? [labelled broken] = none ∧
      (unfilled broken).rows.map TableCount.spec = [labelled broken] ∧ (unfilled broken).notes = [] ∧
        splitOn '\n' (Markdown.report (unfilled broken) false) = heading ++ ["| Two".toList,
          "lines | \x60items\x60 | 0 | name | 0 | 0% |".toList, totalRow (unfilled broken), []] ∧
          ¬Tabular (unfilled broken) (Markdown.report (unfilled broken) false) := by
  have cut : splitOn '\n' (Markdown.report (unfilled broken) false) = heading ++ ["| Two".toList,
      "lines | \x60items\x60 | 0 | name | 0 | 0% |".toList, totalRow (unfilled broken), []] := by
    decide +kernel
  refine ⟨by decide +kernel, rfl, rfl, cut, fun tabular => ?_⟩
  have short := tabular.length
  rw [cut] at short
  cases short

end Document

end SeedCoverage.Render.Markdown

import SeedCoverage.Proofs.Text.Pieces
import SeedCoverage.Render.Markdown

/-! Texts without escape characters. Markdown holds none where the texts that it shows hold none. -/
namespace SeedCoverage

/-- The texts that describe a table. -/
def TableSpec.texts (spec : TableSpec) : List Text :=
  spec.label :: spec.name :: (spec.required ++ spec.follows.toList)

def Gap.texts (gap : Gap) : List Text := gap.table :: gap.origin :: gap.fields

/-- All texts of a report. -/
def Report.texts (report : Report) : List Text :=
  report.rows.flatMap (fun table => table.spec.texts) ++ report.failed ++ report.notes ++
    report.gaps.flatMap Gap.texts

namespace Render

open Text

/-- A text without escape characters. -/
def Plain (text : Text) : Prop := '\x1b' ∉ text

instance (text : Text) : Decidable (Plain text) := inferInstanceAs (Decidable ('\x1b' ∉ text))

section Texts

variable {c : Char} {text left right : Text} {parts : List Text}

@[simp] theorem plain_nil : Plain [] := List.not_mem_nil

@[simp] theorem plain_cons : Plain (c :: text) ↔ c ≠ '\x1b' ∧ Plain text := by
  simp [Plain, eq_comm]

@[simp] theorem plain_append : Plain (left ++ right) ↔ Plain left ∧ Plain right := by
  simp [Plain]

@[simp] theorem plain_ofNat (value : Nat) : Plain (ofNat value) := notMem_ofNat (by decide)

@[simp] theorem plain_lines : Plain (lines parts) ↔ ∀ row ∈ parts, Plain row := by
  simp [Plain, lines]

theorem plain_replicate {count : Nat} (other : c ≠ '\x1b') : Plain (List.replicate count c) := by
  intro member
  exact other (List.eq_of_mem_replicate member).symm

theorem Plain.flatMap {write : Char → Text} (each : ∀ c ∈ text, Plain (write c)) :
    Plain (text.flatMap write) := by
  intro member
  obtain ⟨c, present, inside⟩ := List.mem_flatMap.mp member
  exact each c present inside

theorem Plain.join {separator : Text} (between : Plain separator) (each : ∀ part ∈ parts, Plain part) :
    Plain (join separator parts) := by
  intro member
  rcases mem_join member with inside | ⟨part, present, inside⟩
  · exact between inside
  · exact each part present inside

theorem Plain.drop (plain : Plain text) (count : Nat) : Plain (text.drop count) :=
  fun member => plain (List.mem_of_mem_drop member)

theorem plain_ite {p : Prop} [Decidable p] (holds : Plain left) (fails : ¬p → Plain right) :
    Plain (if p then left else right) := by
  by_cases p : p
  · rwa [if_pos p]
  · rw [if_neg p]
    exact fails p

theorem plain_pad {width : Nat} (plain : Plain text) :
    Plain (padLeft width text) ∧ Plain (padRight width text) := by
  have blanks (count : Nat) : Plain (List.replicate count ' ') := plain_replicate (by decide)
  simp [padLeft, padRight, plain, blanks]

theorem plain_names {names : List Text} (each : ∀ name ∈ names, Plain name) : Plain (join ", " names) :=
  .join (by simp) each

end Texts

section Reports

variable {report : Report} {spec : TableSpec} {gap : Gap}

theorem plain_specTexts :
    (∀ text ∈ spec.texts, Plain text) ↔ Plain spec.label ∧ Plain spec.name ∧
      (∀ field ∈ spec.required, Plain field) ∧ ∀ parent ∈ spec.follows, Plain parent := by
  simp [TableSpec.texts, or_imp, forall_and]

theorem plain_gapTexts :
    (∀ text ∈ gap.texts, Plain text) ↔
      Plain gap.table ∧ Plain gap.origin ∧ ∀ field ∈ gap.fields, Plain field := by
  simp [Gap.texts]

theorem plain_reportTexts :
    (∀ text ∈ report.texts, Plain text) ↔
      (∀ table ∈ report.rows, ∀ text ∈ table.spec.texts, Plain text) ∧
        (∀ path ∈ report.failed, Plain path) ∧ (∀ note ∈ report.notes, Plain note) ∧
          ∀ gap ∈ report.gaps, ∀ text ∈ gap.texts, Plain text := by
  simp only [Report.texts, List.forall_mem_append, List.forall_mem_flatMap, and_assoc]

end Reports

section Markdown

variable {text : Text} {names cells : List Text} {table : TableCount} {report : Report} {gap : Gap}
  {spec : TableSpec} {tables : List TableSpec}

theorem plain_cell (plain : Plain text) : Plain (Markdown.cell text) := by
  refine .flatMap fun c present => plain_ite (by simp) fun _ => ?_
  rw [plain_cons]
  exact ⟨fun same => plain (same ▸ present), plain_nil⟩

theorem plain_code (plain : Plain text) : Plain (Markdown.code text) := by
  simp [Markdown.code, plain]

theorem plain_fields (each : ∀ name ∈ names, Plain name) : Plain (Markdown.fields names) :=
  plain_cell (plain_names each)

theorem plain_row (each : ∀ cell ∈ cells, Plain cell) : Plain (Markdown.row cells) := by
  have joined : Plain (join " | " cells) := .join (by simp) each
  -- not `unfold`: the equation of a definition with literal texts takes seconds
  delta Markdown.row
  simp only [plain_append]
  exact ⟨⟨by simp, joined⟩, by simp⟩

theorem plain_percentage (value : Nat) : Plain (Markdown.percentage value) := by
  simp [Markdown.percentage]

theorem plain_tableRow (plain : ∀ text ∈ table.spec.texts, Plain text) :
    Plain (Markdown.tableRow table) := by
  obtain ⟨label, name, required, -⟩ := plain_specTexts.mp plain
  refine plain_row ?_
  simp [plain_cell label, plain_code name, plain_fields required, plain_percentage]

theorem plain_totalRow (report : Report) : Plain (Markdown.totalRow report) := by
  delta Markdown.totalRow
  simp [plain_percentage]

theorem plain_gapRow (plain : ∀ text ∈ gap.texts, Plain text) : Plain (Markdown.gapRow gap) := by
  obtain ⟨table, origin, fields⟩ := plain_gapTexts.mp plain
  refine plain_row ?_
  simp [plain_cell origin, plain_code table, plain_fields fields]

theorem plain_titled {title : Text} {body : List Text} (heading : Plain title)
    (each : ∀ line ∈ body, Plain line) : ∀ line ∈ Markdown.titled title body, Plain line := by
  simp only [Markdown.titled, List.forall_mem_cons]
  exact ⟨plain_nil, heading, plain_nil, each⟩

theorem plain_noteLines (each : ∀ note ∈ names, Plain note) :
    ∀ line ∈ Markdown.noteLines names, Plain line := by
  delta Markdown.noteLines
  split
  · exact List.forall_mem_nil _
  · refine plain_titled (by simp) ?_
    simp only [List.forall_mem_map, plain_append]
    exact fun note present => ⟨by simp, each note present⟩

theorem plain_gapLines {gaps : List Gap} (each : ∀ gap ∈ gaps, ∀ text ∈ gap.texts, Plain text) :
    ∀ line ∈ Markdown.gapLines gaps, Plain line := by
  delta Markdown.gapLines
  refine plain_titled (by simp) ?_
  split
  · simp
  · simp only [List.forall_mem_cons, List.forall_mem_map]
    exact ⟨by simp, by simp, fun gap present => plain_gapRow (each gap present)⟩

theorem plain_markdown (plain : ∀ text ∈ report.texts, Plain text) (showGaps : Bool) :
    Plain (Markdown.report report showGaps) := by
  obtain ⟨tables, -, notes, gaps⟩ := plain_reportTexts.mp plain
  have heading : ∀ line ∈ Markdown.heading, Plain line := by decide
  have rows : ∀ row ∈ report.rows.map Markdown.tableRow, Plain row := by
    simpa using fun table present => plain_tableRow (tables table present)
  delta Markdown.report
  rw [plain_lines]
  simp only [List.forall_mem_append, List.forall_mem_singleton]
  refine ⟨⟨⟨⟨heading, rows⟩, plain_totalRow report⟩, plain_noteLines notes⟩, ?_⟩
  split
  · exact plain_gapLines gaps
  · exact List.forall_mem_nil _

theorem plain_catalogRow (plain : ∀ text ∈ spec.texts, Plain text) :
    Plain (Markdown.catalogRow spec) := by
  obtain ⟨label, name, required, follows⟩ := plain_specTexts.mp plain
  have parent : Plain (spec.follows.getD []) := by
    cases given : spec.follows with
    | none => exact plain_nil
    | some parent => exact follows parent given
  refine plain_row ?_
  simp [plain_cell label, plain_code name, plain_fields required, parent]

theorem plain_markdownCatalog (plain : ∀ spec ∈ tables, ∀ text ∈ spec.texts, Plain text) :
    Plain (Markdown.catalog tables) := by
  delta Markdown.catalog
  rw [plain_lines]
  simp only [List.forall_mem_cons, List.forall_mem_map]
  exact ⟨by decide, by decide, fun spec present => plain_catalogRow (plain spec present)⟩

end Markdown

end Render
end SeedCoverage

import Mathlib.Data.List.Forall2
import SeedCoverage.Proofs.Render.Structured
import SeedCoverage.Render.Format

/-! Colours. A coloured text without its control sequences is the text without colours, as long as nothing
that it shows has an escape character of its own. -/
namespace SeedCoverage.Render

open Text

section Sequences

/-- A character between the bracket and the end of a control sequence. -/
def isParameter (c : Char) : Bool := c.isDigit || c == ';'

/-- The text behind the control sequence that it begins with. -/
def afterSequence? : Text → Option Text
  | '\x1b' :: '[' :: rest =>
    match rest.dropWhile isParameter with
    | 'm' :: after => some after
    | _ => none
  | _ => none

theorem afterSequence?_length {text after : Text} (found : afterSequence? text = some after) :
    after.length < text.length := by
  unfold afterSequence? at found
  split at found
  · rename_i rest
    split at found
    · rename_i dropped
      cases found
      have shorter := (List.dropWhile_sublist (l := rest) isParameter).length_le
      simp only [dropped, List.length_cons] at shorter ⊢
      omega
    · cases found
  · cases found

/-- The text without its control sequences. -/
def unstyled : Text → Text
  | [] => []
  | c :: rest =>
    match _found : afterSequence? (c :: rest) with
    | some after => unstyled after
    | none => c :: unstyled rest
termination_by text => text.length
decreasing_by
  · exact afterSequence?_length _found
  · exact Nat.lt_succ_self _

variable {c : Char} {text rest parameters : Text}

theorem unstyled_cons (other : c ≠ '\x1b') : unstyled (c :: rest) = c :: unstyled rest := by
  have absent : afterSequence? (c :: rest) = none := by
    unfold afterSequence?
    split
    · rename_i whole
      exact absurd (List.cons.inj whole).1 other
    · rfl
  rw [unstyled]
  split
  · rename_i found
    rw [absent] at found
    cases found
  · rfl

theorem unstyled_sequence (each : ∀ c ∈ parameters, isParameter c = true) :
    unstyled (sequence parameters ++ rest) = unstyled rest := by
  have text : sequence parameters ++ rest = '\x1b' :: '[' :: (parameters ++ 'm' :: rest) := by
    simp [sequence]
  have found : afterSequence? ('\x1b' :: '[' :: (parameters ++ 'm' :: rest)) = some rest := by
    have ends : isParameter 'm' = false := rfl
    simp [afterSequence?, List.dropWhile_append_of_pos each, ends]
  rw [text, unstyled]
  split
  · rename_i after behind
    rw [found] at behind
    rw [Option.some.inj behind]
  · rename_i absent
    rw [found] at absent
    cases absent

end Sequences

section Shows

/-- Behind its control sequences a text is another one, whatever follows. -/
def Shows (colored plain : Text) : Prop := ∀ rest, unstyled (colored ++ rest) = plain ++ unstyled rest

variable {text left right left' right' : Text} {rows rows' : List Text}

theorem Shows.unstyled_eq (behind : Shows left right) : unstyled left = right := by
  have whole := behind []
  rwa [List.append_nil, unstyled, List.append_nil] at whole

theorem Shows.append (first : Shows left left') (second : Shows right right') :
    Shows (left ++ right) (left' ++ right') := by
  intro rest
  rw [List.append_assoc, first, second, List.append_assoc]

/-- A text without escape characters has no sequence, and begins none. -/
theorem Plain.shows (plain : Plain text) : Shows text text := by
  intro rest
  induction text with
  | nil => rfl
  | cons c text ih =>
    obtain ⟨other, others⟩ := plain_cons.mp plain
    rw [List.cons_append, unstyled_cons other, ih others, List.cons_append]

theorem Shows.lines (each : List.Forall₂ Shows rows rows') : Shows (lines rows) (lines rows') := by
  induction each with
  | nil => exact plain_nil.shows
  | cons first _ ih =>
    rw [lines_cons, lines_cons]
    exact first.append ((plain_cons.mpr ⟨by decide, plain_nil⟩).shows.append ih)

theorem reopen_eq_self (plain : Plain text) (code : Text) : reopen code text = text := by
  induction text with
  | nil => rw [reopen]
  | cons c rest ih =>
    obtain ⟨other, others⟩ := plain_cons.mp plain
    have whole : reset.isPrefixOf (c :: rest) = false := by
      simp [reset, sequence, List.isPrefixOf, other.symm]
    rw [reopen, whole, if_neg Bool.false_ne_true, ih others]

theorem shows_sequence {parameters : Text} (each : ∀ c ∈ parameters, isParameter c = true) :
    Shows (sequence parameters) [] := fun _ => unstyled_sequence each

theorem isParameter_of_mem_parameters (style : Style) : ∀ c ∈ style.parameters, isParameter c = true := by
  cases style <;> decide

theorem Plain.shows_paint (plain : Plain text) (style : Style) :
    Shows (paint true style text) (paint false style text) := by
  have opened := shows_sequence (isParameter_of_mem_parameters style)
  have closed : Shows reset [] := shows_sequence (by decide)
  simpa [paint, reopen_eq_self plain] using (opened.append plain.shows).append closed

end Shows

section Terminal

variable {table : TableCount} {report : Report} {spec : TableSpec} {tables : List TableSpec} {gap : Gap}
  {label rest rest' : Text}

theorem shows_columns (plain : Plain label) (last : Shows rest rest') (complete total : Nat) :
    Shows (Terminal.columns label (ofNat complete) (ofNat total) rest)
      (Terminal.columns label (ofNat complete) (ofNat total) rest') := by
  have front : Plain (padRight 28 label ++ " " ++ padLeft 8 (ofNat complete) ++ " " ++
      padLeft 8 (ofNat total) ++ "  ") := by
    simp [(plain_pad plain).2, (plain_pad (plain_ofNat _)).1]
  exact front.shows.append last

theorem shows_percentage (percent : Nat) :
    Shows (Terminal.percentage true percent) (Terminal.percentage false percent) :=
  Plain.shows_paint (by simp [(plain_pad (plain_ofNat _)).1]) _

theorem shows_tableLine (plain : ∀ text ∈ table.spec.texts, Plain text) :
    Shows (Terminal.tableLine true table) (Terminal.tableLine false table) := by
  obtain ⟨label, -, required, -⟩ := plain_specTexts.mp plain
  have opening : Plain "  [".toList := by simp
  have closing : Plain "]".toList := by simp
  have percent := shows_percentage table.count.percent
  exact shows_columns label
    (((percent.append opening.shows).append (plain_names required).shows).append closing.shows) _ _

theorem shows_totalLine (report : Report) :
    Shows (Terminal.totalLine true report) (Terminal.totalLine false report) := by
  have label : Plain "Total".toList := by simp
  delta Terminal.totalLine
  exact shows_columns label (shows_percentage report.percent) _ _

theorem plain_gapLine (plain : ∀ text ∈ gap.texts, Plain text) : Plain (Terminal.gapLine gap) := by
  obtain ⟨table, origin, fields⟩ := plain_gapTexts.mp plain
  delta Terminal.gapLine
  simp only [plain_append]
  exact ⟨by simp [table, origin], plain_names fields⟩

theorem shows_catalogLine (plain : ∀ text ∈ spec.texts, Plain text) :
    Shows (Terminal.catalogLine true spec) (Terminal.catalogLine false spec) := by
  obtain ⟨label, name, required, follows⟩ := plain_specTexts.mp plain
  have opening : Plain " (".toList := by simp
  have closing : Plain "): ".toList := by simp
  refine (((((name.shows_paint .boldCyan).append opening.shows).append label.shows).append
    closing.shows).append (plain_names required).shows).append (Plain.shows ?_)
  split
  · exact plain_nil
  · rename_i parent given
    simp [follows parent given]

theorem forall₂_map {α : Type} {list : List α} {write write' : α → Text}
    (each : ∀ entry ∈ list, Shows (write entry) (write' entry)) :
    List.Forall₂ Shows (list.map write) (list.map write') := by
  rw [List.forall₂_map_left_iff, List.forall₂_map_right_iff]
  exact List.forall₂_same.mpr each

theorem shows_terminal (plain : ∀ text ∈ report.texts, Plain text) (showGaps : Bool) :
    Shows (Terminal.report report true showGaps) (Terminal.report report false showGaps) := by
  obtain ⟨tables, -, notes, gaps⟩ := plain_reportTexts.mp plain
  have source : Plain report.source.name := by cases report.source <;> decide
  have title : Plain ("Content coverage (" ++ report.source.name ++ ")") := by simp [source]
  have names : Plain (Terminal.columns "Table" "Complete" "Rows" " Pct") := by decide
  have missing : Plain "Missing fields:".toList := by simp
  have note : ∀ note ∈ report.notes, Plain ("note: " ++ note) :=
    fun note member => by simp [notes note member]
  delta Terminal.report
  -- heading, tables, total, notes and gaps: four times one list behind another
  refine .lines (List.rel_append (List.rel_append (List.rel_append (List.rel_append
    (.cons (title.shows_paint _) (.cons plain_nil.shows (.cons names.shows .nil))) ?_) ?_) ?_) ?_)
  · exact forall₂_map fun table present => shows_tableLine (tables table present)
  · exact .cons (shows_totalLine report) .nil
  · split
    · exact .nil
    · exact .cons plain_nil.shows (forall₂_map fun text member => (note text member).shows_paint _)
  · split
    · exact .cons plain_nil.shows (.cons (missing.shows_paint _)
        (forall₂_map fun gap present => (plain_gapLine (gaps gap present)).shows))
    · exact .nil

theorem shows_terminalCatalog (plain : ∀ spec ∈ tables, ∀ text ∈ spec.texts, Plain text) :
    Shows (Terminal.catalog tables true) (Terminal.catalog tables false) :=
  .lines (forall₂_map fun spec present => shows_catalogLine (plain spec present))

end Terminal

/-- Without its control sequences a coloured report is the report without colours, and a coloured catalog the
catalog without them, in every format. -/
theorem unstyled_colored (options : Options) {report : Report} (plain : ∀ text ∈ report.texts, Plain text)
    {catalog : Catalog} (plainTables : ∀ spec ∈ catalog.tables, ∀ text ∈ spec.texts, Plain text) :
    unstyled (Render.report { options with colored := true } report) =
        Render.report { options with colored := false } report ∧
      unstyled (Render.catalog { options with colored := true } catalog) =
        Render.catalog { options with colored := false } catalog := by
  obtain ⟨format, colored, showGaps⟩ := options
  cases format with
  | markdown =>
    exact ⟨(plain_markdown plain showGaps).shows.unstyled_eq,
      (plain_markdownCatalog plainTables).shows.unstyled_eq⟩
  | text =>
    exact ⟨(shows_terminal plain showGaps).unstyled_eq, (shows_terminalCatalog plainTables).unstyled_eq⟩
  | json =>
    exact ⟨(Pretty.plain_pretty (plainOutside_report report) 0).shows.unstyled_eq,
      (Pretty.plain_pretty (plainOutside_catalog catalog.tables) 0).shows.unstyled_eq⟩
  | yaml =>
    exact ⟨(Block.plain_render (plainOutside_report report)).shows.unstyled_eq,
      (Block.plain_render (plainOutside_catalog catalog.tables)).shows.unstyled_eq⟩

/-- A complete table, a table that is half complete, and an empty one; brackets that begin no sequence. -/
def ledger : Report where
  source := .files
  rows := [
    ⟨⟨"Items [32m", "items", ["name"], none⟩, ⟨8, 8⟩⟩,
    ⟨⟨"Parts; spare", "parts", ["title", "weight"], some "items"⟩, ⟨8, 4⟩⟩,
    ⟨⟨"Maps", "maps", ["m"], none⟩, {}⟩]
  notes := ["[0m is no reset"]
  gaps := [⟨"parts", "parts.sql", 1, 2, 4, ["weight"]⟩]

theorem unstyled_ledger :
    (∀ text ∈ ledger.texts, Plain text) ∧
      (∀ spec ∈ Catalog.builtin.tables, ∀ text ∈ spec.texts, Plain text) ∧
      ¬Plain (Render.report ⟨.text, true, true⟩ ledger) ∧
      unstyled (Render.report ⟨.text, true, true⟩ ledger) = Render.report ⟨.text, false, true⟩ ledger ∧
      ¬Plain (Render.catalog ⟨.text, true, true⟩ .builtin) ∧
      unstyled (Render.catalog ⟨.text, true, true⟩ .builtin) =
        Render.catalog ⟨.text, false, true⟩ .builtin := by
  have plain : ∀ text ∈ ledger.texts, Plain text := by decide +kernel
  have plainTables : ∀ spec ∈ Catalog.builtin.tables, ∀ text ∈ spec.texts, Plain text := by decide +kernel
  obtain ⟨report, catalog⟩ := unstyled_colored ⟨.text, false, true⟩ plain plainTables
  exact ⟨plain, plainTables, by decide +kernel, report, by decide +kernel, catalog⟩

end SeedCoverage.Render

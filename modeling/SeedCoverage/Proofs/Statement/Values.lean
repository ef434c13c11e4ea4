import SeedCoverage.Proofs.Statement.Head

/-! The rows behind VALUES. Each group of cells comes back as one row, and so does every other group
in parentheses up to the semicolon. -/
namespace SeedCoverage.Sql

open Text

/-- The texts in parentheses that are read as rows. -/
def rowTexts (text : Text) : List Text :=
  groupTexts ((steps text).takeWhile fun step => !step.endsRows)

/-- Rows in parentheses, with a comma and a blank between them. -/
def tuples (rows : List Row) : Text := listed (rows.map group)

/-- A statement with a list of rows, up to the semicolon. -/
def valuesStatement (table : Text) (columns : List Text) (rows : List Row) : Text :=
  insertHead table columns ++ (" VALUES " ++ tuples rows)

theorem valueRows_eq (text : Text) : valueRows text = (rowTexts text).map (splitTop ',') := rfl

theorem groupTexts_append {run rest : List Step} (unopened : ∀ step ∈ run, step.opensRow = false) :
    groupTexts (run ++ rest) = groupTexts rest := by
  induction run with
  | nil => rfl
  | cons step run ih =>
    have here := unopened step (by simp)
    simpa [groupTexts, here] using ih fun other member => unopened other (by simp [member])

private theorem groupTexts_first {step other : Step} (opens : step.opensRow = other.opensRow)
    (ends : step.endsRows = other.endsRows) (run : List Step) :
    groupTexts ((step :: run).takeWhile fun step => !step.endsRows) =
      groupTexts ((other :: run).takeWhile fun step => !step.endsRows) := by
  rw [List.takeWhile_cons, List.takeWhile_cons, ends]
  split
  · simp only [groupTexts, opens]
  · rfl

/-- Which rows a text holds does not depend on the character before it. -/
theorem rowTexts_scan (previous : Option Char) (text : Text) :
    groupTexts ((scan none .start previous text).takeWhile fun step => !step.endsRows) =
      rowTexts text := by
  unfold rowTexts steps
  cases text with
  | nil => rfl
  | cons c rest =>
    by_cases pair : Lexeme.at none .start c rest.head? = .quotePair
    · cases rest with
      | nil => exact absurd pair Lexeme.at_none_ne_pair
      | cons d rest =>
        obtain ⟨rfl, rfl⟩ := Lexeme.eq_quotes_of_pair pair
        rw [scan_pair pair, scan_pair pair]
        exact groupTexts_first rfl rfl _
    · rw [scan_cons pair, scan_cons pair]
      apply groupTexts_first
      · rfl
      · rfl

theorem rowTexts_group {inner : Text} (balanced : Balanced inner) (rest : Text) :
    rowTexts ('(' :: inner ++ ')' :: rest) = inner :: rowTexts rest := by
  have apart : Apart inner (')' :: rest) := .of_head (by simp)
  have inside := balanced.stays_inside
  let opening : Step := ⟨.start, none, .char '(', inner ++ ')' :: rest⟩
  let body := (scan none .nested (some '(') inner).map (Step.extend (')' :: rest))
  let closing : Step := ⟨.nested, lastChar (some '(') inner, .char ')', rest⟩
  have run : steps ('(' :: inner ++ ')' :: rest) =
      opening :: (body ++ closing :: scan none .start (some ')') rest) := by
    rw [steps, List.cons_append, scan_char (by decide)]
    have open_ : State.start.read '(' = .nested := rfl
    have close : State.nested.read ')' = .start := rfl
    rw [open_, scan_append apart, inside.ends, scan_char (by decide), close]
  have hidden : ∀ step ∈ body, step.opensRow = false ∧ step.endsRows = false ∧
      step.closesAll = false := by
    intro step member
    obtain ⟨source, present, rfl⟩ := List.mem_map.mp member
    obtain ⟨here, behind⟩ := inside.each_of _ source present
    simp [Step.opensRow, Step.endsRows, Step.closesAll, Step.next, here, behind]
  have text : stepsText body = inner := by rw [stepsText_extend, stepsText_scan]
  have opens : opening.opensRow = true ∧ opening.endsRows = false := ⟨rfl, rfl⟩
  have closes : closing.closesAll = true ∧ closing.endsRows = false ∧ closing.opensRow = false :=
    ⟨rfl, rfl, rfl⟩
  rw [rowTexts, run, List.takeWhile_cons_of_pos (by simp [opens]),
    List.takeWhile_append_of_pos fun step member => by simp [hidden step member],
    List.takeWhile_cons_of_pos (by simp [closes]), ← rowTexts_scan (some ')')]
  rw [groupTexts, if_pos (by simp [opens, closes]),
    List.takeWhile_append_of_pos fun step member => by simp [hidden step member],
    List.takeWhile_cons_of_neg (by simp [closes]), List.append_nil, text]
  rw [groupTexts_append fun step member => (hidden step member).1, groupTexts]
  simp [closes]

/-- What is no mark and no semicolon is passed over between the rows. -/
theorem rowTexts_cons {c : Char} (unmarked : isMark c = false) (goes : c ≠ ';') (rest : Text) :
    rowTexts (c :: rest) = rowTexts rest := by
  have still : State.start.read c = .start := read_of_unmarked rfl unmarked
  have unopened : c ≠ '(' := by
    rintro rfl
    simp [isMark] at unmarked
  rw [rowTexts, steps, scan_char (ne_quote_of_unmarked unmarked), still, ← rowTexts_scan (some c)]
  simp [Step.endsRows, Step.isChar, goes, groupTexts, Step.opensRow, unopened]

theorem rowTexts_append {left : Text} (plain : ∀ c ∈ left, isMark c = false ∧ c ≠ ';')
    (rest : Text) : rowTexts (left ++ rest) = rowTexts rest := by
  induction left with
  | nil => rfl
  | cons c left ih =>
    rw [List.cons_append, rowTexts_cons (plain c (by simp)).1 (plain c (by simp)).2]
    exact ih fun d member => plain d (by simp [member])

theorem rowTexts_semicolon (rest : Text) : rowTexts (';' :: rest) = [] := by
  rw [rowTexts, steps, scan_char (by decide)]
  rfl

theorem valueRows_semicolon (rest : Text) : valueRows (';' :: rest) = [] := by
  rw [valueRows_eq, rowTexts_semicolon, List.map_nil]

theorem rowTexts_tuples {rows : List Row} (balanced : ∀ row ∈ rows, Balanced (listed row))
    (rest : Text) : rowTexts (tuples rows ++ rest) = rows.map listed ++ rowTexts rest := by
  induction rows with
  | nil => rfl
  | cons row rows ih =>
    have later := ih fun other member => balanced other (by simp [member])
    have here := rowTexts_group (balanced row (by simp))
    cases rows with
    | nil => simpa [tuples, listed, join, group] using here rest
    | cons second rows =>
      have shape : tuples (row :: second :: rows) ++ rest =
          '(' :: listed row ++ ')' :: ([',', ' '] ++ (tuples (second :: rows) ++ rest)) := by
        simp [tuples, listed_cons, group]
      rw [shape, here, rowTexts_append (by decide), later]
      rfl

theorem valueRows_tuples {rows : List Row} (cells : ∀ row ∈ rows, ∀ cell ∈ row, Cell cell)
    (rest : Text) :
    valueRows (' ' :: (tuples rows ++ rest)) = rows ++ valueRows rest := by
  have balanced : ∀ row ∈ rows, Balanced (listed row) := fun row member =>
    .listed rfl (by decide) (by decide) fun cell inRow => (cells row member cell inRow).balanced
  have same : rows.map (fun row => splitTop ',' (listed row)) = rows :=
    map_eq_self fun row member => splitTop_listed (cells row member)
  rw [valueRows_eq, rowTexts_cons (by decide) (by decide), rowTexts_tuples balanced]
  simp [same, valueRows_eq, Function.comp_def]

theorem rowSource_values (rest : Text) :
    rowSource (" VALUES " ++ rest) = .ok (.values (valueRows (' ' :: rest))) := by
  have size : phraseSize? (words "values") (some ' ') ("VALUES " ++ rest) = some 6 := rfl
  have values : phraseIn "values" (" VALUES " ++ rest) = some ⟨[' '], "VALUES", ' ' :: rest⟩ :=
    findPhrase_blank rfl (by decide) size ⟨'v', rfl, by decide⟩
  have front : Quiet (words "select") [' ', 'V'] ("ALUES " ++ rest) :=
    .of_unstarted ⟨'s', rfl, by decide⟩
  have select : phraseIn "select" (" VALUES " ++ rest) =
      (findPhrase (words "select") (some 'V') ("ALUES " ++ rest)).map (Found.precede [' ', 'V']) :=
    front.findPhrase_append (.of_head (by simp)) rfl
  unfold rowSource
  rw [values, select]
  cases findPhrase (words "select") (some 'V') ("ALUES " ++ rest) with
  | none => rfl
  | some query => simp [Found.precede]

/-- A statement with a list of rows has those rows, and the groups behind them up to its end. -/
theorem readInsert_values {catalog : Catalog} {id : catalog.Id} {hint : Option Text}
    {columns : List Text} {rows : List Row}
    (admits : hint.all (same (catalog.get id).name) = true) (some_column : columns ≠ [])
    (identifiers : ∀ column ∈ columns, isIdentifier column = true)
    (cells : ∀ row ∈ rows, ∀ cell ∈ row, Cell cell) (rest : Text) :
    readInsert catalog hint (valuesStatement (catalog.get id).name columns rows ++ rest) =
      alignRows id columns (.values (rows ++ valueRows rest)) := by
  have source : rowSource (" VALUES " ++ (tuples rows ++ rest)) =
      .ok (.values (rows ++ valueRows rest)) := by
    rw [rowSource_values, valueRows_tuples cells]
  rw [valuesStatement, List.append_assoc, List.append_assoc,
    readInsert_insertHead admits some_column identifiers, source]
  rfl

end SeedCoverage.Sql

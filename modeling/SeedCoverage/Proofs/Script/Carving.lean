import SeedCoverage.Proofs.Reading.Place
import SeedCoverage.Proofs.Script.Extract
import SeedCoverage.Proofs.Script.Strip

/-! Where the statements of a text stand. The search for the next one begins afresh behind the last, so
a statement stands in quotes of the text just where a quote that opens between two statements is not
closed before the second of them. -/
namespace SeedCoverage.Sql

open Text

/-- A statement in its place: what ends with the statement before it, what is passed over behind that,
the statement, and what is left. -/
structure Carving where
  passed : Text
  skipped : Text
  statement : Text
  rest : Text
  deriving DecidableEq, Repr

/-- All that stands before the statement. -/
def Carving.before (carving : Carving) : Text := carving.passed ++ carving.skipped

/-- Nothing that opens a quote is left open where the statement begins. -/
def Carving.Unquoted (carving : Carving) : Prop :=
  (State.start.afterText none carving.before).inQuotes = false

/-- What is passed over before the statement closes the quotes that it opens. -/
def Carving.Closes (carving : Carving) : Prop :=
  (State.start.afterText none carving.skipped).inQuotes = false

instance (carving : Carving) : Decidable carving.Unquoted := inferInstanceAs (Decidable (_ = _))

/-- The statements of `text` in their places, with `passed` before it. -/
def carvingsFrom (passed text : Text) : List Carving :=
  match begins : seekInsert? text with
  | none => []
  | some found =>
    match ends : findStatementEnd found with
    | none => []
    | some place =>
      have : place.after.length < text.length :=
        Nat.lt_of_lt_of_le (findStatementEnd_after_length ends) (seekInsert?_length begins)
      let carving : Carving :=
        ⟨passed, text.take (text.length - found.length), place.before ++ place.found, place.after⟩
      carving :: carvingsFrom (carving.before ++ carving.statement) place.after
termination_by text.length

def carvings (text : Text) : List Carving := carvingsFrom [] text

variable {text found passed : Text} {place : Found} {carving : Carving}

theorem seekInsert?_suffix (begins : seekInsert? text = some found) : found <:+ text := by
  obtain ⟨gap, rfl, _⟩ := exists_gap begins
  exact List.suffix_append gap found

theorem seekInsert?_starts (begins : seekInsert? text = some found) :
    startsWith insertInto found = true := by
  obtain ⟨_, _, _, starts⟩ := exists_gap begins
  exact starts

/-- The two searches part a text into what is passed over, a statement, and what is left. -/
theorem carving_parts (begins : seekInsert? text = some found)
    (ends : findStatementEnd found = some place) :
    text.take (text.length - found.length) ++ (place.before ++ place.found ++ place.after) = text := by
  obtain ⟨front, rfl⟩ := seekInsert?_suffix begins
  rw [List.append_assoc, findStep_whole ends, List.length_append, Nat.add_sub_cancel, List.take_left]

theorem carvingsFrom_statement (passed text : Text) :
    (carvingsFrom passed text).map Carving.statement = statements text := by
  fun_induction carvingsFrom passed text with
  | case1 passed text absent => rw [statements_absent absent, List.map_nil]
  | case2 passed text found begins endless => rw [statements_endless begins endless, List.map_nil]
  | case3 passed text found begins place ends shorter carving ih =>
    rw [statements_found begins ends, List.map_cons, ih]

theorem carvingsFrom_whole (member : carving ∈ carvingsFrom passed text) :
    carving.before ++ carving.statement ++ carving.rest = passed ++ text := by
  fun_induction carvingsFrom passed text with
  | case1 => cases member
  | case2 => cases member
  | case3 passed text found begins place ends shorter first ih =>
    have parts := carving_parts begins ends
    have whole : first.before ++ first.statement ++ first.rest = passed ++ text := by
      conv => rhs; rw [← parts]
      simp [first, Carving.before]
    rcases List.mem_cons.mp member with rfl | later
    · exact whole
    · exact (ih later).trans whole

/-- How a character is read hangs on the quotes alone. -/
private theorem at_quote {left right : State} (same : left.quote = right.quote) (c : Char)
    (next : Option Char) : Lexeme.at none left c next = Lexeme.at none right c next := by
  simp [Lexeme.at, same]

private theorem after_quote {left right : State} (same : left.quote = right.quote)
    (lexeme : Lexeme) : (left.after lexeme).quote = (right.after lexeme).quote := by
  cases lexeme with
  | char c => exact (quote_read left c).trans (same ▸ (quote_read right c).symm)
  | quotePair => exact same
  | cut c => exact same

/-- Readings that agree on the quotes go on agreeing, however many parentheses are open. -/
theorem quote_afterText {left right : State} (same : left.quote = right.quote) (text : Text) :
    (left.afterText none text).quote = (right.afterText none text).quote := by
  fun_induction State.afterText none left text generalizing right with
  | case1 => exact same
  | case2 left c => exact at_quote same c none ▸ after_quote same _
  | case3 left c d rest pair ih =>
    have pair' : Lexeme.at none right c (some d) = .quotePair := at_quote same c (some d) ▸ pair
    simpa [State.afterText, pair'] using ih same
  | case4 left c d rest single ih =>
    have single' : Lexeme.at none right c (some d) ≠ .quotePair := at_quote same c (some d) ▸ single
    have later := ih (after_quote same (Lexeme.at none left c (some d)))
    rw [at_quote same c (some d)] at later ⊢
    simpa [State.afterText] using later

private theorem statement_head (begins : seekInsert? text = some found)
    (ends : findStatementEnd found = some place) :
    (place.before ++ place.found).head? ≠ some '\'' := by
  have starts := seekInsert?_starts begins
  have whole := findStep_whole ends
  intro quoted
  obtain ⟨more, front⟩ := List.head?_eq_some_iff.mp quoted
  rw [← List.append_assoc, front, List.cons_append] at whole
  have letter : Char.toLower '\'' = Char.toLower 'i' := startsWith_cons (whole ▸ starts) rfl
  exact absurd letter (by decide)

/-- Behind a text that leaves no quote open, the quotes are read as they are read afresh. -/
private theorem inQuotes_afterText {state : State} (unquoted : state.inQuotes = false) (text : Text) :
    (state.afterText none text).inQuotes = (State.start.afterText none text).inQuotes := by
  have code : state.quote = State.start.quote := by simpa [State.inQuotes, State.start] using unquoted
  rw [State.inQuotes, quote_afterText code, State.inQuotes]

/-- A statement is read by itself, and no quote that it opens outlasts it. -/
private theorem statement_closes (ends : findStatementEnd text = some place) {state : State}
    (unquoted : state.inQuotes = false) :
    (state.afterText none (place.before ++ place.found)).inQuotes = false := by
  obtain ⟨semicolon, closed⟩ := findStatementEnd_spec ends
  have apart : Apart place.before place.found := .of_head (by simp [semicolon])
  have alone : State.start.afterText none (place.before ++ place.found) =
      State.start.afterText none [';'] := by
    rw [afterText_append apart, closed, semicolon]
  rw [inQuotes_afterText unquoted, alone]
  rfl

private theorem carvingsFrom_unquoted_iff (unquoted : (State.start.afterText none passed).inQuotes = false)
    (seam : passed.getLast? ≠ some '\'') :
    (∀ carving ∈ carvingsFrom passed text, carving.Unquoted) ↔
      ∀ carving ∈ carvingsFrom passed text, carving.Closes := by
  fun_induction carvingsFrom passed text with
  | case1 => simp
  | case2 => simp
  | case3 passed text found begins place ends shorter carving ih =>
    have here : carving.Unquoted ↔ carving.Closes := by
      have whole := inQuotes_afterText unquoted carving.skipped
      rw [← afterText_append (.of_last seam)] at whole
      rw [Carving.Unquoted, Carving.Closes, ← whole]
      rfl
    by_cases closes : carving.Closes
    · -- The next search begins behind a semicolon, and outside quotes again.
      have start := here.mpr closes
      obtain ⟨semicolon, _⟩ := findStatementEnd_spec ends
      have last : (carving.before ++ carving.statement).getLast? = some ';' := by
        simp [carving, semicolon]
      have letter : Apart carving.before carving.statement := .of_head (statement_head begins ends)
      have behind := statement_closes ends start
      rw [← afterText_append letter] at behind
      have later := ih behind (by simp [last])
      simp only [List.forall_mem_cons, here, later]
    · have quoted : ¬carving.Unquoted := fun unquoted => closes (here.mp unquoted)
      simp only [List.forall_mem_cons, closes, quoted, false_and]

/-- The statements of a text are its carvings, and all of them stand outside quotes just where each
closes the quotes that open between it and the statement before it. -/
theorem statements_unquoted_iff (text : Text) :
    (carvings text).map Carving.statement = statements text ∧
      (∀ carving ∈ carvings text, carving.before ++ carving.statement ++ carving.rest = text) ∧
        ((∀ carving ∈ carvings text, carving.Unquoted) ↔
          ∀ carving ∈ carvings text, carving.Closes) := by
  refine ⟨carvingsFrom_statement [] text, ?_, ?_⟩
  · intro carving member
    exact carvingsFrom_whole member
  · exact carvingsFrom_unquoted_iff rfl (by simp)

/-- A string that holds a statement is cut open. -/
theorem statement_in_literal_carved :
    let text : Text := "SELECT 'insert into items (name) VALUES (1);';"
    stripComments text = text ∧
      ¬∀ carving ∈ carvings text, carving.Unquoted := by
  decide +kernel

end SeedCoverage.Sql

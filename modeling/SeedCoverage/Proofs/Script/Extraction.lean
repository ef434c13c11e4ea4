import SeedCoverage.Proofs.Reading.Place
import SeedCoverage.Proofs.Script.Extract

/-! Which statements are extracted from a text. They lie one behind the other with nothing between them
that begins a statement, and each is a statement by itself, so that they are found again in any text
that is put together from them. -/
namespace SeedCoverage.Sql

open Text

/-- A statement by itself: it begins with its first words, and its last character is the semicolon
that ends it. -/
structure Extracted (span : Text) : Prop where
  begins : startsWith insertInto span = true
  ends : findStatementEnd span = some ⟨span.dropLast, [';'], []⟩

/-- The spans of `text` in the order in which they stand there. The end of a text holds none where no
`insert into` begins in it, or where no semicolon stands at the top level of the first that does. -/
inductive Extraction : Text → List Text → Prop where
  | absent {text : Text} (free : Insertless text []) : Extraction text []
  | endless {gap found : Text} (free : Insertless gap found)
      (begins : startsWith insertInto found = true)
      (endless : ∀ step ∈ steps found, ¬(step.state.atTop = true ∧ step.lexeme = .char ';')) :
      Extraction (gap ++ found) []
  | span {gap span rest : Text} {spans : List Text} (free : Insertless gap (span ++ rest))
      (extracted : Extracted span) (later : Extraction rest spans) :
      Extraction (gap ++ (span ++ rest)) (span :: spans)

variable {text span : Text} {spans : List Text} {place : Found}

/-- No semicolon stands at the top level before the end of a statement, and what is opened there is
closed there. -/
theorem reads_of_findStatementEnd (ends : findStatementEnd text = some place) :
    Reads (fun state lexeme => ¬(state.atTop = true ∧ lexeme = .char ';')) .start place.before
      .start := by
  have whole := findStep_whole ends
  obtain ⟨semicolon, closed⟩ := findStatementEnd_spec ends
  rw [semicolon] at whole
  have absent : findStatementEnd place.before = none := by
    refine Option.eq_none_iff_forall_ne_some.mpr fun sooner found => ?_
    -- A sooner end would be the end that is found in the whole text.
    have seam : Apart place.before ([';'] ++ place.after) := .of_head (by simp)
    have again := findStatementEnd_extend seam found
    rw [whole, ends] at again
    have same : place.before = sooner.before := by
      rw [Option.some.inj again]
      rfl
    have parts := congrArg List.length (findStep_whole found)
    rw [(findStatementEnd_spec found).1, same] at parts
    simp at parts
  exact ⟨closed, findStatementEnd_eq_none.mp absent⟩

namespace Extracted

theorem of_end (begins : startsWith insertInto text = true)
    (ends : findStatementEnd text = some place) : Extracted (place.before ++ [';']) := by
  have whole := findStep_whole ends
  rw [(findStatementEnd_spec ends).1, List.singleton_append] at whole
  rw [← whole, startsWith_semicolon] at begins
  constructor
  · rw [startsWith_semicolon, begins]
  · rw [findStatementEnd_semicolon (reads_of_findStatementEnd ends), List.dropLast_concat]

theorem dropLast_concat (extracted : Extracted span) : span.dropLast ++ [';'] = span := by
  simpa using findStep_whole extracted.ends

theorem statements_append (extracted : Extracted span) (rest : Text) :
    statements (span ++ rest) = span :: statements rest := by
  obtain ⟨body, rfl⟩ : ∃ body, span = body ++ [';'] := ⟨_, extracted.dropLast_concat.symm⟩
  have reads := reads_of_findStatementEnd extracted.ends
  rw [List.dropLast_concat] at reads
  have begins := extracted.begins
  rw [startsWith_semicolon, ← startsWith_semicolon body rest] at begins
  rw [List.append_assoc]
  exact statements_cons reads begins

end Extracted

namespace Extraction

theorem of_statements (text : Text) : Extraction text (statements text) := by
  fun_induction statements text with
  | case1 text absent => exact .absent (insertless_of_absent absent)
  | case2 text found begins endless =>
    obtain ⟨gap, rfl, free, starts⟩ := exists_gap begins
    exact .endless free starts (findStatementEnd_eq_none.mp endless)
  | case3 text found begins place ends shorter ih =>
    obtain ⟨gap, rfl, free, starts⟩ := exists_gap begins
    have whole := (List.append_assoc ..).trans (findStep_whole ends)
    have extracted := Extracted.of_end starts ends
    rw [← (findStatementEnd_spec ends).1] at extracted
    rw [← whole] at free ⊢
    exact .span free extracted ih

theorem statements_eq (extraction : Extraction text spans) : statements text = spans := by
  induction extraction with
  | absent free =>
    have whole := seekInsert?_gap free
    rw [List.append_nil] at whole
    exact statements_absent whole
  | endless free begins endless =>
    exact statements_endless ((seekInsert?_gap free).trans (seekInsert?_here begins))
      (findStatementEnd_eq_none.mpr endless)
  | span free extracted later ih =>
    rw [statements_congr (seekInsert?_gap free), extracted.statements_append, ih]

theorem each (extraction : Extraction text spans) : ∀ span ∈ spans, Extracted span := by
  induction extraction with
  | absent => simp
  | endless => simp
  | span free extracted later ih => exact List.forall_mem_cons.mpr ⟨extracted, ih⟩

theorem of_flatten (each : ∀ span ∈ spans, Extracted span) : Extraction spans.flatten spans := by
  induction spans with
  | nil => exact .absent (insertless_nil [])
  | cons span rest ih =>
    obtain ⟨first, later⟩ := List.forall_mem_cons.mp each
    exact .span (insertless_nil _) first (ih later)

end Extraction

/-- The statements of a text are cut from it in their order and without overlap. Each is a statement by
itself; none begins between them, and what is behind the last holds none that has an end. No other list
of spans is such. Extracted from all of them in a row, they are the same. -/
theorem statements_exact (text : Text) :
    Extraction text (statements text) ∧
      (∀ spans, Extraction text spans → statements text = spans) ∧
        statements (statements text).flatten = statements text := by
  have extraction := Extraction.of_statements text
  exact ⟨extraction, fun _ other => other.statements_eq,
    (Extraction.of_flatten extraction.each).statements_eq⟩

-- The last statement has no end.
example :
    statements "insert into a values (';');; INSERT INTO b values (2)" =
      ["insert into a values (';');".toList] := by
  decide +kernel

end SeedCoverage.Sql

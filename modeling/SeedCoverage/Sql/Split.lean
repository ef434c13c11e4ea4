import SeedCoverage.Sql.Search

/-! Cutting SQL text at delimiters and at the phrase UNION ALL, where they stand at the top level. -/
namespace SeedCoverage.Sql

open Text

/-- The texts between the cuts of a reading. -/
def cutPieces : List Step → List Text
  | [] => [[]]
  | step :: rest =>
    if step.lexeme.isCut then [] :: cutPieces rest
    else match cutPieces rest with
      | [] => [step.lexeme.text]
      | piece :: pieces => (step.lexeme.text ++ piece) :: pieces

/-- A list without the empty texts at its end. -/
def dropEmptyEnd (pieces : List Text) : List Text :=
  (pieces.reverse.dropWhile List.isEmpty).reverse

/-- The trimmed texts between the delimiters at the top level. Empty ones stay where they keep the
others in place, and go at the end. -/
def splitTop (delimiter : Char) (text : Text) : List Text :=
  dropEmptyEnd ((cutPieces (scan (some delimiter) .start none text)).map trim)

/-- The phrase between the clauses of a union. -/
def unionAll : List Text := ["union", "all"]

/-- The texts around every UNION ALL; each search starts afresh behind the phrase before it. -/
def unionPieces (previous : Option Char) (text : Text) : List Text :=
  match found : findPhrase unionAll previous text with
  | none => [text]
  | some place =>
    have : place.after.length < text.length := findPhrase_after_length found (by decide)
    place.before :: unionPieces place.found.getLast? place.after
termination_by text.length

/-- The trimmed clauses of a union, blank ones left out. -/
def unionClauses (text : Text) : List Text :=
  ((unionPieces none text).map trim).filter fun clause => !clause.isEmpty

theorem cutPieces_ne_nil (run : List Step) : cutPieces run ≠ [] := by
  cases run with
  | nil => simp [cutPieces]
  | cons step rest =>
    unfold cutPieces
    split
    · simp
    · split <;> simp

end SeedCoverage.Sql

import SeedCoverage.Sql.Search

/-! Carving the INSERT statements out of SQL text without comments. -/
namespace SeedCoverage.Sql

open Text

/-- The first words of a statement, with one blank between them. -/
def insertInto : Text := "insert into"

/-- The text from the first `insert into` on, wherever it stands. -/
def seekInsert? : Text → Option Text
  | [] => none
  | c :: rest =>
    if (after? insertInto (c :: rest)).isSome then some (c :: rest) else seekInsert? rest

theorem seekInsert?_length {text found : Text} (h : seekInsert? text = some found) :
    found.length ≤ text.length := by
  fun_induction seekInsert? text with
  | case1 => cases h
  | case2 => cases h; exact Nat.le_refl _
  | case3 c rest _ ih => have := ih h; simp only [List.length_cons]; omega

/-- Every statement from its `insert into` through the semicolon that ends it. A statement without
an end is the last thing looked at. -/
def statements (text : Text) : List Text :=
  match begins : seekInsert? text with
  | none => []
  | some found =>
    match ends : findStatementEnd found with
    | none => []
    | some place =>
      have : place.after.length < text.length :=
        Nat.lt_of_lt_of_le (findStatementEnd_after_length ends) (seekInsert?_length begins)
      (place.before ++ place.found) :: statements place.after
termination_by text.length

end SeedCoverage.Sql

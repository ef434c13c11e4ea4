import SeedCoverage.Corpus.Scan
import SeedCoverage.Proofs.Coverage.Counts
import SeedCoverage.Proofs.Script.Extract
import SeedCoverage.Proofs.Script.Strip

/-! Where a corpus is cut into files. Between two statements, and outside strings and block comments,
a cut changes no figure. -/
namespace SeedCoverage.Corpus

open Text Sql

variable {catalog : Catalog}

/-- A text that may be cut off from what follows on the next line. -/
structure Complete (text : Text) : Prop where
  ends : (Region.sql .code).after text = .sql .code ∨ (Region.sql .code).after text = .lineComment
  finished : unfinished? (stripComments text) = none

theorem readScript_append {left : Text} (complete : Complete left) (catalog : Catalog)
    (hint : Option Text) (right : Text) :
    readScript catalog hint (left ++ '\n' :: right) =
      readScript catalog hint left ++ readScript catalog hint right := by
  rw [readScript, stripComments_append complete.ends, statements_append complete.finished,
    List.map_append]
  rfl

theorem agree_countFile {left right : Tally catalog} (agree : Tally.Agree left right)
    (scan : FileScan catalog) : Tally.Agree (countFile left scan) (countFile right scan) := by
  unfold countFile
  split
  · exact agree.foldAll _ _ _
  · exact agree

theorem agree_foldl_countFile {left right : Tally catalog} (agree : Tally.Agree left right)
    (scans : List (FileScan catalog)) :
    Tally.Agree (scans.foldl countFile left) (scans.foldl countFile right) := by
  induction scans generalizing left right with
  | nil => exact agree
  | cons scan rest ih => exact ih (agree_countFile agree scan)

/-- One file counts like two that hold its statements between them. -/
theorem agree_split (tracking : Bool) (before behind : List (FileScan catalog))
    (whole first second : Text) (left right : List (Outcome catalog)) :
    Tally.Agree
      ((before ++ ⟨whole, .ok (left ++ right)⟩ :: behind).foldl countFile
        (Tally.start catalog tracking))
      ((before ++ ⟨first, .ok left⟩ :: ⟨second, .ok right⟩ :: behind).foldl countFile
        (Tally.start catalog tracking)) := by
  rw [List.foldl_append, List.foldl_append]
  exact agree_foldl_countFile (Tally.agree_foldAll_append _ whole first second left right) behind

/-- Two files one after the other say what the one file says that joins them with a line feed. -/
theorem aggregate_split {left : Text} (complete : Complete left) (right : Text) (hint : Option Text) :
    readScript catalog hint (left ++ '\n' :: right) =
        readScript catalog hint left ++ readScript catalog hint right ∧
      ∀ (tracking : Bool) (before behind : List (FileScan catalog)) (whole first second : Text),
        let joined := aggregate tracking
          (before ++ ⟨whole, .ok (readScript catalog hint (left ++ '\n' :: right))⟩ :: behind)
        let cut := aggregate tracking
          (before ++ ⟨first, .ok (readScript catalog hint left)⟩ ::
            ⟨second, .ok (readScript catalog hint right)⟩ :: behind)
        joined.rows = cut.rows ∧ joined.parsed = cut.parsed ∧ joined.skipped = cut.skipped ∧
          joined.rejected = cut.rejected := by
  have same := readScript_append complete catalog hint right
  refine ⟨same, fun tracking before behind whole first second => ?_⟩
  have agree := agree_split tracking before behind whole first second (readScript catalog hint left)
    (readScript catalog hint right)
  rw [same]
  exact ⟨agree.rows, agree.parsed, agree.skipped, agree.rejected⟩

theorem aggregate_split_comment :
    let left : Text := "INSERT INTO items (name) VALUES ('a;--b'); -- it's"
    let right : Text := "INSERT INTO items (name) VALUES ('c');"
    readScript .builtin none (left ++ '\n' :: right) =
        readScript .builtin none left ++ readScript .builtin none right ∧
      ∀ (tracking : Bool) (before behind : List (FileScan .builtin)) (whole first second : Text),
        let joined := aggregate tracking
          (before ++ ⟨whole, .ok (readScript .builtin none (left ++ '\n' :: right))⟩ :: behind)
        let cut := aggregate tracking
          (before ++ ⟨first, .ok (readScript .builtin none left)⟩ ::
            ⟨second, .ok (readScript .builtin none right)⟩ :: behind)
        joined.rows = cut.rows ∧ joined.parsed = cut.parsed ∧ joined.skipped = cut.skipped ∧
          joined.rejected = cut.rejected := by
  have stripped : stripComments "INSERT INTO items (name) VALUES ('a;--b'); -- it's" =
      "INSERT INTO items (name) VALUES ('a;--b'); ".toList := by decide +kernel
  have begins : seekInsert? "INSERT INTO items (name) VALUES ('a;--b'); " =
      some "INSERT INTO items (name) VALUES ('a;--b'); ".toList := by decide +kernel
  have ends : findStatementEnd "INSERT INTO items (name) VALUES ('a;--b'); " =
      some ⟨"INSERT INTO items (name) VALUES ('a;--b')", ";", " "⟩ := by decide +kernel
  have finished : unfinished? (stripComments "INSERT INTO items (name) VALUES ('a;--b'); -- it's") =
      none := by
    rw [stripped, unfinished?_found begins ends]
    exact unfinished?_absent (by decide +kernel)
  exact aggregate_split ⟨by decide +kernel, finished⟩ _ none

end SeedCoverage.Corpus

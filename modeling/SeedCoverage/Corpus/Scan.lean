import SeedCoverage.Coverage.Tally
import SeedCoverage.Files.Tree
import SeedCoverage.Render.Samples

/-! Reading the files of a corpus. What the files say is counted in their order; a file that cannot
be read is listed and changes no count. -/
namespace SeedCoverage.Corpus

open Text Sql Files

variable {catalog : Catalog}

/-- The statements of one file, or why it cannot be read. -/
structure FileScan (catalog : Catalog) where
  path : Text
  outcomes : Except AccessFault (List (Outcome catalog))

def scanFile (tree : FileTree) (catalog : Catalog) (path : Text) : FileScan catalog :=
  ⟨path, (tree.readText path).map (readScript catalog none)⟩

def FileScan.readable (scan : FileScan catalog) : Bool := scan.outcomes.isOk

/-- Counts the statements of a file that could be read. -/
def countFile (tally : Tally catalog) (scan : FileScan catalog) : Tally catalog :=
  match scan.outcomes with
  | .ok outcomes => tally.foldAll scan.path outcomes
  | .error _ => tally

/-- What scanned files say. -/
def aggregate (tracking : Bool) (scans : List (FileScan catalog)) : Report :=
  { (scans.foldl countFile (Tally.start catalog tracking)).report with
    scanned := scans.countP FileScan.readable
    failed := (scans.filter fun scan => !scan.readable).map FileScan.path }

/-- What the files at `paths` say. -/
def report (tree : FileTree) (catalog : Catalog) (tracking : Bool) (paths : List Text) : Report :=
  aggregate tracking (paths.map (scanFile tree catalog))

/-- The statements of one file about a table; none if it cannot be read. -/
def samplesOf (tree : FileTree) (catalog : Catalog) (table path : Text) :
    List (Render.Sample catalog) :=
  match tree.readText path with
  | .ok sql =>
    (readScript catalog (some table) sql).filterMap fun outcome =>
      outcome.toOption.map (Render.Sample.mk path)
  | .error _ => []

/-- The first `limit` statements about a table. No file is read once they are found. -/
def sample (tree : FileTree) (catalog : Catalog) (table : Text) (limit : Nat) :
    List Text → List (Render.Sample catalog)
  | [] => []
  | path :: rest =>
    if limit = 0 then []
    else
      let found := (samplesOf tree catalog table path).take limit
      found ++ sample tree catalog table (limit - found.length) rest

end SeedCoverage.Corpus

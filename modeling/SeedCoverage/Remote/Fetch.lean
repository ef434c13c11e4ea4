import SeedCoverage.Coverage.Report
import SeedCoverage.Remote.Session

/-! Reading a remote table page by page. A page may be shorter than was asked for; only an empty one
is the end. -/
namespace SeedCoverage.Remote

/-- What is known of a remote table: its count, and the gaps of its rows. -/
structure TableScan where
  row : TableCount
  gaps : List Gap := []
  deriving DecidableEq, Repr

namespace TableScan

def start (spec : TableSpec) : TableScan := ⟨⟨spec, {}⟩, []⟩

/-- Counts a record; `page` and `place` say in a gap where it stands. -/
def add (tracking : Bool) (page : Nat) (scan : TableScan) (record : Record × Nat) : TableScan :=
  let spec := scan.row.spec
  let missing := missingIn spec record.1
  { row := { scan.row with count := scan.row.count.add 1 missing.isEmpty }
    gaps := if tracking && !missing.isEmpty then
        scan.gaps ++ [⟨spec.name, "remote:" ++ spec.name, page, record.2, 1, missing⟩]
      else scan.gaps }

/-- Counts the records of a page. -/
def addPage (tracking : Bool) (page : Nat) (records : List Record) (scan : TableScan) : TableScan :=
  (records.zipIdx 1).foldl (add tracking page) scan

end TableScan

/-- Reads the pages from number `page` on, at most `budget` of them; `none` if there are more. -/
def fetchPages (server : Server) (client : Client) (tracking : Bool) :
    (budget page offset : Nat) → TableScan → Session → Option (Except Fault TableScan × Session)
  | 0, _, _, _, _ => none
  | budget + 1, page, offset, scan, session =>
    match fetchPage server client scan.row.spec offset session with
    | (.error fault, session) => some (.error fault, session)
    | (.ok [], session) => some (.ok scan, session)
    | (.ok records, session) =>
      fetchPages server client tracking budget (page + 1) (offset + records.length)
        (scan.addPage tracking page records) session

/-- Reads a table of at most `budget` pages, the empty one included. -/
def fetchTable (server : Server) (client : Client) (spec : TableSpec) (tracking : Bool)
    (budget : Nat) : Option (Except Fault TableScan × Session) :=
  fetchPages server client tracking budget 1 0 (.start spec) {}

end SeedCoverage.Remote

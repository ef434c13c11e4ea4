import SeedCoverage.Coverage.Report
import SeedCoverage.Sql.Insert

/-! Counting statements into the tables of a catalog. A bulk insert counts as many rows as the
table that it follows has so far, so the order of statements matters there and nowhere else. -/
namespace SeedCoverage

open Text Sql

/-- The running counts of a catalog's tables, and what else a report tells. -/
structure Tally (catalog : Catalog) where
  counts : catalog.PerTable Count
  /-- Whether gaps are kept. -/
  tracking : Bool
  gaps : List Gap := []
  parsed : Nat := 0
  skipped : Nat := 0
  rejected : Nat := 0

/-- The required fields for which no column has the name, or whose value is not present. The first
column of a name counts. -/
def missingFields (required columns : List Text) (row : Row) : List Text :=
  required.filter fun field =>
    !((columns.findIdx? fun column => same column field).bind (row[·]?)).any isPresent

/-- The rows that are data, each with its place from 1 and the fields it lacks. -/
def verdicts (required columns : List Text) (rows : List Row) : List (Nat × List Text) :=
  ((rows.zipIdx 1).filter fun (row, _) => !isArtifact row).map fun (row, place) =>
    (place, missingFields required columns row)

/-- The table that a statement follows: that of its table, if it selects from a relation. -/
def Sql.Insert.leader? {catalog : Catalog} (insert : Insert catalog) : Option catalog.Id :=
  match insert.source with
  | .values _ => none
  | .select _ body => if readsRelation body then catalog.parentOf insert.table else none

namespace Tally

variable {catalog : Catalog}

def start (catalog : Catalog) (tracking : Bool) : Tally catalog :=
  { counts := Vector.replicate _ {}, tracking }

/-- The count of one table. -/
def count (tally : Tally catalog) (id : catalog.Id) : Count := tally.counts.get id

/-- Counts rows that share one verdict. -/
def add (tally : Tally catalog) (id : catalog.Id) (rows : UInt64) (complete : Bool) : Tally catalog :=
  { tally with counts := catalog.put tally.counts id ((tally.count id).add rows complete) }

/-- Keeps a gap, if gaps are kept and it says anything. -/
def note (tally : Tally catalog) (gap : Gap) : Tally catalog :=
  if tally.tracking && !gap.fields.isEmpty && gap.multiplicity != 0 then
    { tally with gaps := tally.gaps ++ [gap] }
  else tally

/-- Counts a statement; `origin` and `statement` say in a gap where it stands. -/
def fold (tally : Tally catalog) (insert : Insert catalog) (origin : Text) (statement : Nat) :
    Tally catalog :=
  let tally :=
    { tally with parsed := tally.parsed + 1, rejected := tally.rejected + insert.rejected }
  let spec := catalog.get insert.table
  let judged := verdicts spec.required insert.columns insert.rows
  let gap (rows : UInt64) (verdict : Nat × List Text) : Gap :=
    ⟨spec.name, origin, statement, verdict.1, rows, verdict.2⟩
  if judged.isEmpty then tally
  else match insert.leader? with
    | some leader =>
      let rows := (tally.count leader).total
      (judged.map (gap rows)).foldl note
        (tally.add insert.table rows (judged.all fun verdict => verdict.2.isEmpty))
    | none =>
      judged.foldl
        (fun tally verdict => (tally.add insert.table 1 verdict.2.isEmpty).note (gap 1 verdict)) tally

/-- Counts a statement that is passed over. -/
def skip (tally : Tally catalog) : Tally catalog := { tally with skipped := tally.skipped + 1 }

def foldOutcome (tally : Tally catalog) (origin : Text) (statement : Nat) :
    Outcome catalog → Tally catalog
  | .ok insert => tally.fold insert origin statement
  | .error _ => tally.skip

/-- Counts the statements of one origin, numbered from 1. -/
def foldAll (tally : Tally catalog) (origin : Text) (outcomes : List (Outcome catalog)) :
    Tally catalog :=
  (outcomes.zipIdx 1).foldl (fun tally (outcome, place) => tally.foldOutcome origin place outcome)
    tally

/-- Every table with its count, in the order of the catalog. -/
def rows (tally : Tally catalog) : List TableCount :=
  catalog.ids.map fun id => ⟨catalog.get id, tally.count id⟩

def report (tally : Tally catalog) : Report where
  source := .files
  rows := tally.rows
  parsed := tally.parsed
  skipped := tally.skipped
  rejected := tally.rejected
  gaps := tally.gaps

end Tally
end SeedCoverage

import SeedCoverage.Catalog
import SeedCoverage.Coverage.Percent

/-! What a run finds out: for every table how many rows there are and how many of them are
complete, and for every incomplete row which fields it lacks. Counters are 64 bits wide. -/
namespace SeedCoverage

/-- The rows of one table, and those of them in which no required field is missing. -/
structure Count where
  total : UInt64 := 0
  complete : UInt64 := 0
  deriving DecidableEq, Repr

namespace Count

/-- Counts `rows` more rows that are all complete or all incomplete. -/
def add (count : Count) (rows : UInt64) (complete : Bool) : Count :=
  ⟨count.total + rows, if complete then count.complete + rows else count.complete⟩

def percent (count : Count) : Nat := SeedCoverage.percent count.complete.toNat count.total.toNat

/-- The sum over all tables. -/
def sum (counts : List Count) : Count :=
  counts.foldl (fun sum count => ⟨sum.total + count.total, sum.complete + count.complete⟩) {}

end Count

/-- The fields that one row lacks, or all the rows of one bulk insert. -/
structure Gap where
  table : Text
  /-- The file, or the remote table. -/
  origin : Text
  /-- The statement of a file, or the page of a remote table, from 1. -/
  statement : Nat
  /-- The row within that, from 1. -/
  row : Nat
  /-- How many rows the gap stands for. -/
  multiplicity : UInt64
  fields : List Text
  deriving DecidableEq, Repr

/-- A table with its count. -/
structure TableCount where
  spec : TableSpec
  count : Count
  deriving DecidableEq, Repr

/-- Where the numbers come from. -/
inductive DataSource where
  | files
  | remote
  deriving DecidableEq, Repr

def DataSource.name : DataSource → Text
  | .files => "SQL files"
  | .remote => "remote data store"

structure Report where
  source : DataSource
  rows : List TableCount
  parsed : Nat := 0
  skipped : Nat := 0
  rejected : Nat := 0
  scanned : Nat := 0
  failed : List Text := []
  notes : List Text := []
  gaps : List Gap := []
  deriving DecidableEq, Repr

namespace Report

def count (report : Report) : Count := Count.sum (report.rows.map TableCount.count)

def percent (report : Report) : Nat := report.count.percent

/-- How the numbers came about. -/
def summary (report : Report) : List Text :=
  match report.source with
  | .remote => ["Source: " ++ report.source.name]
  | .files =>
    ["Source: " ++ report.source.name ++ " (" ++ Text.ofNat report.scanned ++ " files scanned)",
      "Statements parsed: " ++ Text.ofNat report.parsed ++ ", skipped: " ++
        Text.ofNat report.skipped] ++
    (if report.rejected = 0 then []
      else ["Rows rejected for column count mismatch: " ++ Text.ofNat report.rejected]) ++
    (if report.failed.isEmpty then []
      else ["Unreadable files (" ++ Text.ofNat report.failed.length ++ "): " ++
        Text.join ", " report.failed])

/-- The report with more notes at the end. -/
def withNotes (report : Report) (notes : List Text) : Report :=
  { report with notes := report.notes ++ notes }

end Report

/-- The exit code of a run: 1 below the threshold, if there is one. -/
def exitCode (percent : Nat) (threshold : Option Nat) : Nat :=
  if threshold.any (percent < ·) then 1 else 0

end SeedCoverage

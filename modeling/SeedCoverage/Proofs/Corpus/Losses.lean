import SeedCoverage.Corpus.Scan
import SeedCoverage.Proofs.Coverage.Counts

/-! What is lost on the way. Files that cannot be read and statements that are passed over are told, and
no number of a report hangs on them. -/
namespace SeedCoverage

open Text Sql

variable {catalog : Catalog}

namespace Tally

/-- Tallies that have counted the same, whatever each of them has passed over. -/
structure Level (left right : Tally catalog) : Prop where
  counts : ∀ id, left.count id = right.count id
  parsed : left.parsed = right.parsed
  rejected : left.rejected = right.rejected

variable {left right : Tally catalog}

theorem Level.fold (level : Level left right) (insert : Insert catalog) (origin other : Text)
    (statement place : Nat) :
    Level (left.fold insert origin statement) (right.fold insert other place) := by
  obtain ⟨counts, parsed, -, rejected⟩ := left.fold_spec insert origin statement
  obtain ⟨counts', parsed', -, rejected'⟩ := right.fold_spec insert other place
  have agree : Agree { right with counts := left.counts } right := ⟨level.counts, rfl, rfl, rfl⟩
  have gain : left.gain insert = right.gain insert := agree.gain insert
  refine ⟨fun id => ?_, ?_, ?_⟩
  · rw [counts, counts', level.counts, gain]
  · rw [parsed, parsed', level.parsed]
  · rw [rejected, rejected', level.rejected]

/-- To pass over a statement, or not to meet it at all, leaves tallies level. -/
theorem Level.skip (level : Level left right) : Level left.skip right :=
  ⟨level.counts, level.parsed, level.rejected⟩

/-- The statements of one origin count as those of them do that are read, from any number on. -/
theorem Level.foldl_accepted (level : Level left right) (origin : Text)
    (outcomes : List (Outcome catalog)) (first start : Nat) :
    Level
      ((outcomes.zipIdx first).foldl
        (fun tally (outcome, place) => tally.foldOutcome origin place outcome) left)
      (((outcomes.filter Except.isOk).zipIdx start).foldl
        (fun tally (outcome, place) => tally.foldOutcome origin place outcome) right) := by
  induction outcomes generalizing left right first start with
  | nil => exact level
  | cons outcome rest ih =>
    cases outcome with
    | error reason => exact ih level.skip _ _
    | ok insert => exact ih (level.fold insert origin origin first start) _ _

theorem foldOutcome_told (tally : Tally catalog) (origin : Text) (place : Nat)
    (outcome : Outcome catalog) :
    (tally.foldOutcome origin place outcome).parsed + (tally.foldOutcome origin place outcome).skipped =
      tally.parsed + tally.skipped + 1 := by
  cases outcome with
  | error => rfl
  | ok insert =>
    obtain ⟨-, parsed, skipped, -⟩ := tally.fold_spec insert origin place
    rw [foldOutcome, parsed, skipped]
    omega

theorem foldl_told (tally : Tally catalog) (origin : Text) (outcomes : List (Outcome catalog))
    (first : Nat) :
    let final := (outcomes.zipIdx first).foldl
      (fun tally (outcome, place) => tally.foldOutcome origin place outcome) tally
    final.parsed + final.skipped = tally.parsed + tally.skipped + outcomes.length := by
  induction outcomes generalizing tally first with
  | nil => rfl
  | cons outcome rest ih =>
    refine (ih (tally.foldOutcome origin first outcome) (first + 1)).trans ?_
    rw [foldOutcome_told, List.length_cons]
    omega

end Tally

namespace Corpus

namespace FileScan

/-- The scan without the statements that are passed over. -/
def accepted (scan : FileScan catalog) : FileScan catalog :=
  { scan with outcomes := scan.outcomes.map (List.filter Except.isOk) }

/-- What became of the statements of a file, if it can be read. -/
def told (scan : FileScan catalog) : List (Outcome catalog) :=
  match scan.outcomes with
  | .ok outcomes => outcomes
  | .error _ => []

/-- The path of a file that cannot be read. -/
def lost? (scan : FileScan catalog) : Option Text :=
  match scan.outcomes with
  | .ok _ => none
  | .error _ => some scan.path

end FileScan

/-- Scans without the files that cannot be read and the statements that are passed over. -/
def accepted (scans : List (FileScan catalog)) : List (FileScan catalog) :=
  (scans.filter FileScan.readable).map FileScan.accepted

open Tally

theorem countFile_told (tally : Tally catalog) (scan : FileScan catalog) :
    (countFile tally scan).parsed + (countFile tally scan).skipped =
      tally.parsed + tally.skipped + scan.told.length := by
  obtain ⟨path, outcomes⟩ := scan
  cases outcomes with
  | error fault => rfl
  | ok outcomes => exact tally.foldl_told path outcomes 1

theorem foldl_countFile_told (tally : Tally catalog) (scans : List (FileScan catalog)) :
    (scans.foldl countFile tally).parsed + (scans.foldl countFile tally).skipped =
      tally.parsed + tally.skipped + (scans.flatMap FileScan.told).length := by
  induction scans generalizing tally with
  | nil => rfl
  | cons scan rest ih =>
    rw [List.foldl_cons, ih, countFile_told, List.flatMap_cons, List.length_append, Nat.add_assoc]

theorem level_accepted {left right : Tally catalog} (level : Level left right)
    (scans : List (FileScan catalog)) :
    Level (scans.foldl countFile left) ((accepted scans).foldl countFile right) := by
  induction scans generalizing left right with
  | nil => exact level
  | cons scan rest ih =>
    obtain ⟨path, outcomes⟩ := scan
    cases outcomes with
    | error fault => exact ih level
    | ok outcomes => exact ih (level.foldl_accepted path outcomes 1 1)

theorem failed_eq (tracking : Bool) (scans : List (FileScan catalog)) :
    (aggregate tracking scans).failed = scans.filterMap FileScan.lost? := by
  rw [aggregate]
  induction scans with
  | nil => rfl
  | cons scan rest ih =>
    obtain ⟨path, outcomes⟩ := scan
    cases outcomes with
    | error fault => exact congrArg (path :: ·) ih
    | ok outcomes => exact ih

/-- Files that cannot be read and statements that are passed over, wherever they stand, change no number
of the report, and none of them goes untold: every file is either scanned or listed as lost, in order,
and every statement of a file that can be read is either counted or passed over. -/
theorem aggregate_accepted (tracking : Bool) (scans : List (FileScan catalog)) :
    let whole := aggregate tracking scans
    let sound := aggregate tracking (accepted scans)
    (whole.rows = sound.rows ∧ whole.count = sound.count ∧ whole.percent = sound.percent ∧
        whole.parsed = sound.parsed ∧ whole.rejected = sound.rejected) ∧
      whole.scanned + whole.failed.length = scans.length ∧
        whole.failed = scans.filterMap FileScan.lost? ∧
          whole.parsed + whole.skipped = (scans.flatMap FileScan.told).length := by
  intro whole sound
  have level : Level (scans.foldl countFile (start catalog tracking))
      ((accepted scans).foldl countFile (start catalog tracking)) :=
    level_accepted ⟨fun _ => rfl, rfl, rfl⟩ scans
  have rows : whole.rows = sound.rows :=
    List.map_congr_left fun id _ => congrArg (TableCount.mk _) (level.counts id)
  have count : whole.count = sound.count := by
    rw [Report.count, rows]
    rfl
  have files : whole.scanned + whole.failed.length = scans.length := by
    change scans.countP FileScan.readable +
      ((scans.filter fun scan => !scan.readable).map FileScan.path).length = scans.length
    rw [List.length_map, ← List.countP_eq_length_filter]
    simpa using (List.length_eq_countP_add_countP (l := scans) FileScan.readable).symm
  have statements := foldl_countFile_told (start catalog tracking) scans
  refine ⟨⟨rows, count, congrArg Count.percent count, level.parsed, level.rejected⟩, files,
    failed_eq tracking scans, ?_⟩
  exact statements.trans (Nat.zero_add _)

end Corpus
end SeedCoverage

import SeedCoverage.Proofs.Coverage.Verdicts
import SeedCoverage.Proofs.Statement.Align

/-! Scripts that are written from records. Reading and counting one finds the records that it was
written from, whatever strings they hold. -/
namespace SeedCoverage.Corpus

open Text Sql

/-- Records for one table, each with a value for every column. -/
structure Dataset (catalog : Catalog) where
  table : catalog.Id
  columns : List Text
  records : List Record
  some_column : columns ≠ []
  identifiers : ∀ column ∈ columns, isIdentifier column = true
  some_record : records ≠ []
  widths : ∀ record ∈ records, record.length = columns.length

variable {catalog : Catalog}

namespace Dataset

/-- The statement that lists the records, up to its semicolon. -/
def statement (dataset : Dataset catalog) : Text :=
  recordsStatement (catalog.get dataset.table).name dataset.columns dataset.records

/-- What that statement is read as. -/
def insert (dataset : Dataset catalog) : Insert catalog :=
  ⟨dataset.table, dataset.columns, .values (dataset.records.map renderRecord), 0⟩

end Dataset

/-- The records for a table, each with the columns it is written under. -/
def recordsOf (datasets : List (Dataset catalog)) (id : catalog.Id) : List (List Text × Record) :=
  (datasets.filter fun dataset => dataset.table = id).flatMap fun dataset =>
    dataset.records.map fun record => (dataset.columns, record)

/-- How many records there are for a table. -/
def recordCount (datasets : List (Dataset catalog)) (id : catalog.Id) : Nat :=
  (recordsOf datasets id).length

/-- How many of them lack no required field. -/
def completeCount (datasets : List (Dataset catalog)) (id : catalog.Id) : Nat :=
  (recordsOf datasets id).countP fun entry =>
    entry.2.complete (catalog.get id).required entry.1

theorem completeCount_le (datasets : List (Dataset catalog)) (id : catalog.Id) :
    completeCount datasets id ≤ recordCount datasets id :=
  List.countP_le_length

theorem Dataset.readInsert_statement (dataset : Dataset catalog) :
    readInsert catalog none (dataset.statement ++ [';']) = .ok dataset.insert := by
  have rows := @readInsert_records _ _ dataset.table none rfl dataset.some_column
    dataset.identifiers dataset.records [';']
  rw [valueRows_semicolon, List.append_nil] at rows
  refine rows.trans (alignRows_even ?_ fun row member => ?_)
  · exact fun none_left => dataset.some_record (List.map_eq_nil_iff.mp none_left)
  · obtain ⟨record, present, rfl⟩ := List.mem_map.mp member
    exact (length_renderRecord record).trans (dataset.widths record present)

theorem readScript_datasets (datasets : List (Dataset catalog)) :
    readScript catalog none (script (datasets.map Dataset.statement)) =
      (datasets.map Dataset.insert).map Except.ok := by
  have each : ∀ body ∈ datasets.map Dataset.statement, Sealed body := by
    intro body member
    obtain ⟨dataset, _, rfl⟩ := List.mem_map.mp member
    exact .of_records (catalog.identifier_name _) dataset.identifiers dataset.records
  rw [readScript_script each, List.map_map, List.map_map]
  exact List.map_congr_left fun dataset _ => dataset.readInsert_statement

theorem yield_datasets (datasets : List (Dataset catalog)) (id : catalog.Id) :
    Tally.yield (datasets.map Dataset.insert) id =
      ⟨.ofNat (recordCount datasets id), .ofNat (completeCount datasets id)⟩ := by
  induction datasets with
  | nil => rfl
  | cons dataset rest ih =>
    have here : Count.ofVerdicts dataset.insert.judged = ⟨.ofNat dataset.records.length,
        .ofNat (dataset.records.countP
          (Record.complete (catalog.get dataset.table).required dataset.columns))⟩ :=
      ofVerdicts_records _ _ _
    by_cases same : dataset.table = id
    · have inserted : dataset.insert.table = id := same
      have records : recordsOf (dataset :: rest) id =
          (dataset.records.map fun record => (dataset.columns, record)) ++ recordsOf rest id := by
        rw [recordsOf, List.filter_cons_of_pos (by simpa using same), List.flatMap_cons]
        rfl
      rw [List.map_cons, Tally.yield_cons_same inserted, ih, here, recordCount, recordCount,
        completeCount, completeCount, records, List.length_append, List.countP_append,
        List.length_map, List.countP_map, UInt64.ofNat_add, UInt64.ofNat_add, ← same]
      rfl
    · have inserted : dataset.insert.table ≠ id := same
      have records : recordsOf (dataset :: rest) id = recordsOf rest id := by
        rw [recordsOf, List.filter_cons_of_neg (by simpa using same)]
        rfl
      rw [List.map_cons, Tally.yield_cons_other inserted, ih, recordCount, recordCount, completeCount,
        completeCount, records]

theorem rejectedRows_datasets (datasets : List (Dataset catalog)) :
    Tally.rejectedRows (datasets.map Dataset.insert) = 0 := by
  induction datasets with
  | nil => rfl
  | cons dataset rest ih => exact (Nat.zero_add _).trans ih

/-- Every statement of the script is counted, and every record just once and for what it holds. -/
theorem script_ground_truth (datasets : List (Dataset catalog)) (tracking : Bool) (origin : Text)
    (fits : ∀ id, recordCount datasets id < UInt64.size) :
    let outcomes := readScript catalog none (script (datasets.map Dataset.statement))
    let tally := (Tally.start catalog tracking).foldAll origin outcomes
    (∀ outcome ∈ outcomes, outcome.isOk = true) ∧ tally.parsed = datasets.length ∧
      tally.skipped = 0 ∧ tally.rejected = 0 ∧
        ∀ id, (tally.count id).total.toNat = recordCount datasets id ∧
          (tally.count id).complete.toNat = completeCount datasets id := by
  rw [readScript_datasets]
  have own : ∀ insert ∈ datasets.map Dataset.insert, insert.leader? = none := by
    intro insert member
    obtain ⟨dataset, _, rfl⟩ := List.mem_map.mp member
    rfl
  obtain ⟨counts, parsed, skipped, rejected⟩ :=
    Tally.foldAll_own (Tally.start catalog tracking) origin own
  refine ⟨fun outcome member => ?_, ?_, skipped, ?_, fun id => ?_⟩
  · obtain ⟨insert, _, rfl⟩ := List.mem_map.mp member
    rfl
  · exact parsed.trans (by simp [Tally.start])
  · refine rejected.trans ?_
    rw [rejectedRows_datasets, Tally.start]
  · have total := fits id
    have complete := Nat.lt_of_le_of_lt (completeCount_le datasets id) total
    rw [counts, Tally.count_start, yield_datasets, Count.zero_plus]
    exact ⟨UInt64.toNat_ofNat_of_lt' total, UInt64.toNat_ofNat_of_lt' complete⟩

/-- Two lists of records with SQL in their strings. -/
def quotedDatasets : List (Dataset .builtin) := [
  { table := ⟨4, by decide⟩
    columns := ["title", "Summary", "giver", "reward", "title"]
    records := [
      [some "It's; (x, --y", some "INSERT INTO quests (title) VALUES ('q');", some "/* ", some "]",
        none],
      [some "Rescue", none, some "", some " \t", some "late"]]
    some_column := by decide
    identifiers := by decide
    some_record := by decide
    widths := by decide },
  { table := ⟨0, by decide⟩
    columns := ["name"]
    records := [[some "name"]]
    some_column := by decide
    identifiers := by decide
    some_record := by decide
    widths := by decide }]

theorem quotedDatasets_ground_truth :
    let outcomes := readScript .builtin none (script (quotedDatasets.map Dataset.statement))
    let tally := (Tally.start .builtin true).foldAll "seed.sql" outcomes
    tally.parsed = 2 ∧ tally.skipped = 0 ∧ tally.rejected = 0 ∧
      (tally.count ⟨4, by decide⟩).total.toNat = 2 ∧
        (tally.count ⟨4, by decide⟩).complete.toNat = 1 := by
  obtain ⟨_, parsed, skipped, rejected, counts⟩ :=
    script_ground_truth quotedDatasets true "seed.sql" (by decide +kernel)
  obtain ⟨total, complete⟩ := counts ⟨4, by decide⟩
  exact ⟨parsed, skipped, rejected, total.trans (by decide +kernel),
    complete.trans (by decide +kernel)⟩

end SeedCoverage.Corpus

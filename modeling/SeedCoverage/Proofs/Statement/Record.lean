import SeedCoverage.Proofs.Script.Sealed
import SeedCoverage.Proofs.Statement.Value
import SeedCoverage.Proofs.Statement.Values

/-! Statements that list records. Whatever strings the records hold, such a statement ends where it
was written to end and gives the records back. -/
namespace SeedCoverage.Sql

open Text

/-- The values of one row. -/
abbrev Record := List (Option Text)

def renderRecord (record : Record) : Row := record.map renderValue

theorem length_renderRecord (record : Record) : (renderRecord record).length = record.length :=
  List.length_map _

/-- A statement that lists records, up to the semicolon. -/
def recordsStatement (table : Text) (columns : List Text) (records : List Record) : Text :=
  valuesStatement table columns (records.map renderRecord)

variable {state : State} {table : Text} {columns : List Text} {records : List Record}

theorem inStatement_of_wordChar {c : Char} (word : isWordChar c = true) :
    inStatement state (.char c) := by
  have differs (d : Char) (other : isWordChar d = false) : c ≠ d := ne_of_wordChar word other
  refine ⟨?_, fun _ => ⟨?_, ?_⟩⟩
  · simp [differs ';' (by decide)]
  · simp [differs '-' (by decide)]
  · simp [differs '/' (by decide)]

theorem reads_identifier {name : Text} (code : state.quote = .code)
    (identifier : isIdentifier name = true) : Reads inStatement state name state :=
  .chars code fun c member =>
    have word := wordChar_of_mem identifier c member
    ⟨unmarked_of_wordChar word, inStatement_of_wordChar word⟩

theorem reads_group {cells : List Text}
    (each : ∀ cell ∈ cells, Reads inStatement .nested cell .nested) :
    Reads inStatement .start (group cells) .start :=
  .group (by decide) (by decide) (.listed rfl (by decide) (by decide) each)

theorem reads_identifiers (identifiers : ∀ name ∈ columns, isIdentifier name = true) :
    Reads inStatement .start (group columns) .start :=
  reads_group fun name member => reads_identifier rfl (identifiers name member)

theorem reads_record (record : Record) :
    Reads inStatement .start (group (renderRecord record)) .start := by
  refine reads_group fun cell member => ?_
  obtain ⟨value, _, rfl⟩ := List.mem_map.mp member
  refine .value rfl (fun _ => inStatement_of_wordChar) (by decide) (by decide) (fun lexeme => ?_) value
  exact ⟨by simp, fun code => by cases code⟩

theorem reads_insertHead (identifier : isIdentifier table = true)
    (identifiers : ∀ column ∈ columns, isIdentifier column = true) :
    Reads inStatement .start (insertHead table columns) .start := by
  have words : Reads inStatement .start "INSERT INTO " .start := .chars rfl (by decide)
  have blank : Reads inStatement .start [' '] .start := .chars rfl (by decide)
  have list := blank.append (reads_identifiers identifiers) (.of_last (by decide))
  have name := (reads_identifier rfl identifier).append list (.of_head (by simp))
  exact words.append name (.of_last (by decide))

theorem reads_recordsStatement (identifier : isIdentifier table = true)
    (identifiers : ∀ column ∈ columns, isIdentifier column = true) (records : List Record) :
    Reads inStatement .start (recordsStatement table columns records) .start := by
  have values : Reads inStatement .start " VALUES " .start := .chars rfl (by decide)
  have rows : Reads inStatement .start (tuples (records.map renderRecord)) .start := by
    refine .listed rfl (by decide) (by decide) fun text member => ?_
    obtain ⟨row, present, rfl⟩ := List.mem_map.mp member
    obtain ⟨record, _, rfl⟩ := List.mem_map.mp present
    exact reads_record record
  exact (reads_insertHead identifier identifiers).append (values.append rows (.of_last (by decide)))
    (.of_head (by simp))

theorem recordsStatement_begins (table : Text) (columns : List Text) (records : List Record)
    (rest : Text) :
    startsWith insertInto (recordsStatement table columns records ++ rest) = true := rfl

/-- Whatever its strings hold, the statement ends with its last record. -/
theorem Sealed.of_records (identifier : isIdentifier table = true)
    (identifiers : ∀ column ∈ columns, isIdentifier column = true) (records : List Record) :
    Sealed (recordsStatement table columns records) :=
  ⟨reads_recordsStatement identifier identifiers records, recordsStatement_begins _ _ _⟩

/-- The rows of such a statement are its records, and the groups behind them. -/
theorem readInsert_records {catalog : Catalog} {id : catalog.Id} {hint : Option Text}
    (admits : hint.all (same (catalog.get id).name) = true) (some_column : columns ≠ [])
    (identifiers : ∀ column ∈ columns, isIdentifier column = true) (records : List Record)
    (rest : Text) :
    readInsert catalog hint (recordsStatement (catalog.get id).name columns records ++ rest) =
      alignRows id columns (.values (records.map renderRecord ++ valueRows rest)) := by
  refine readInsert_values admits some_column identifiers (fun row member cell inRow => ?_) rest
  obtain ⟨record, _, rfl⟩ := List.mem_map.mp member
  obtain ⟨value, _, rfl⟩ := List.mem_map.mp inRow
  exact .of_value value

end SeedCoverage.Sql

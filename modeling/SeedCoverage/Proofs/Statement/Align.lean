import SeedCoverage.Proofs.Result
import SeedCoverage.Sql.Insert

/-! Which rows a statement keeps: those as wide as its column list. -/
namespace SeedCoverage.Sql

open Text

/-- Where the rows of a statement come from, before any of them is given up. -/
def statementSource (statement : Text) : Except Skip Source := do
  let (_, afterName) ← target statement
  let (_, body) ← columnList afterName
  rowSource body

variable {catalog : Catalog} {id : catalog.Id} {columns : List Text} {source : Source}

@[simp] theorem Source.withRows_rows (source : Source) : source.withRows source.rows = source := by
  cases source <;> rfl

@[simp] theorem Source.rows_withRows (rows : List Row) (source : Source) :
    (source.withRows rows).rows = rows := by
  cases source <;> rfl

theorem exists_ok {ε α : Type} {result : Except ε α} {found : α → Bool}
    (any : result.toOption.any found = true) : ∃ value, result = .ok value ∧ found value = true := by
  cases result with
  | error => cases any
  | ok value => exact ⟨value, rfl, any⟩

theorem alignRows_eq_ok_iff {insert : Insert catalog} :
    alignRows id columns source = .ok insert ↔
      (source.rows.filter fun row => row.length == columns.length) ≠ [] ∧
        insert = ⟨id, columns,
          source.withRows (source.rows.filter fun row => row.length == columns.length),
          source.rows.countP fun row => row.length != columns.length && !isArtifact row⟩ := by
  simp only [alignRows]
  split
  · rename_i none
    exact iff_of_false (by simp) fun some => some.1 (List.isEmpty_iff.mp none)
  · rename_i some_row
    rw [Except.ok.injEq, eq_comm]
    exact (and_iff_right fun none => some_row (List.isEmpty_iff.mpr none)).symm

theorem alignRows_ok {insert : Insert catalog}
    (aligned : alignRows id columns source = .ok insert) :
    insert.columns = columns ∧
      insert.source =
        source.withRows (source.rows.filter fun row => row.length == columns.length) ∧
      insert.rows ≠ [] := by
  obtain ⟨some_row, rfl⟩ := alignRows_eq_ok_iff.mp aligned
  refine ⟨rfl, rfl, ?_⟩
  rwa [Insert.rows, Source.rows_withRows]

theorem alignRows_sublist {insert : Insert catalog}
    (aligned : alignRows id columns source = .ok insert) : insert.rows.Sublist source.rows := by
  obtain ⟨_, kept, _⟩ := alignRows_ok aligned
  rw [Insert.rows, kept, Source.rows_withRows]
  exact List.filter_sublist

theorem alignRows_table {insert : Insert catalog}
    (aligned : alignRows id columns source = .ok insert) : insert.table = id := by
  obtain ⟨_, rfl⟩ := alignRows_eq_ok_iff.mp aligned
  rfl

/-- A name is that of a table of the catalog, and the hint names the table too, if there is one. -/
theorem resolve_eq_ok_iff {hint : Option Text} {name : Text} {id : catalog.Id} :
    resolve catalog hint name = .ok id ↔
      catalog.lookup name = some id ∧ hint.all (same (catalog.get id).name) = true := by
  refine Iff.trans ?_
    (Option.filter_eq_some_iff (p := fun id => hint.all (same (catalog.get id).name)))
  rw [resolve]
  split
  · rename_i other found
    rw [found, Except.ok.injEq, Option.some.injEq]
  · rename_i none
    simp [none]

/-- A statement is read where each of its parts is: the name of its table, which the hint admits, the
column list, and the rows behind it, of which some fit. -/
theorem readInsert_eq_ok_iff {hint : Option Text} {statement : Text} {insert : Insert catalog} :
    readInsert catalog hint statement = .ok insert ↔
      ∃ name afterName columns body source, target statement = .ok (name, afterName) ∧
        resolve catalog hint name = .ok insert.table ∧
        columnList afterName = .ok (columns, body) ∧ rowSource body = .ok source ∧
        alignRows insert.table columns source = .ok insert := by
  constructor
  · intro read
    obtain ⟨⟨name, afterName⟩, named, read⟩ := bind_eq_ok.mp read
    obtain ⟨table, known, read⟩ := bind_eq_ok.mp read
    obtain ⟨⟨columns, body⟩, listed, read⟩ := bind_eq_ok.mp read
    obtain ⟨source, found, aligned⟩ := bind_eq_ok.mp read
    obtain rfl := alignRows_table aligned
    exact ⟨name, afterName, columns, body, source, named, known, listed, found, aligned⟩
  · rintro ⟨name, afterName, columns, body, source, named, known, listed, found, aligned⟩
    refine bind_eq_ok.mpr ⟨(name, afterName), named, bind_eq_ok.mpr ⟨insert.table, known, ?_⟩⟩
    exact bind_eq_ok.mpr ⟨(columns, body), listed, bind_eq_ok.mpr ⟨source, found, aligned⟩⟩

/-- With a hint those statements are read that are about its table, and they are read as without it. -/
theorem readInsert_hint {statement table : Text} {insert : Insert catalog} :
    readInsert catalog (some table) statement = .ok insert ↔
      readInsert catalog none statement = .ok insert ∧
        same (catalog.get insert.table).name table = true := by
  simp only [readInsert_eq_ok_iff, resolve_eq_ok_iff, Option.all_some, Option.all_none]
  constructor
  · rintro ⟨name, afterName, columns, body, source, named, ⟨known, about⟩, parts⟩
    exact ⟨⟨name, afterName, columns, body, source, named, ⟨known, trivial⟩, parts⟩, about⟩
  · rintro ⟨⟨name, afterName, columns, body, source, named, ⟨known, -⟩, parts⟩, about⟩
    exact ⟨name, afterName, columns, body, source, named, ⟨known, about⟩, parts⟩

/-- A statement that is read has kept those rows of its source that are as wide as its column list, and
there are such rows. -/
theorem readInsert_ok {hint : Option Text} {statement : Text} {insert : Insert catalog}
    (read : readInsert catalog hint statement = .ok insert) :
    ∃ source, statementSource statement = .ok source ∧
      insert.source =
        source.withRows (source.rows.filter fun row => row.length == insert.columns.length) ∧
      insert.rows ≠ [] := by
  obtain ⟨name, afterName, columns, body, source, named, _, listed, found, aligned⟩ :=
    readInsert_eq_ok_iff.mp read
  obtain ⟨rfl, rows, some_row⟩ := alignRows_ok aligned
  have whole : statementSource statement = .ok source :=
    bind_eq_ok.mpr ⟨(name, afterName), named, bind_eq_ok.mpr ⟨(_, body), listed, found⟩⟩
  exact ⟨source, whole, rows, some_row⟩

theorem length_of_mem_rows {hint : Option Text} {statement : Text} {insert : Insert catalog}
    (read : readInsert catalog hint statement = .ok insert) {row : Row} (member : row ∈ insert.rows) :
    row.length = insert.columns.length := by
  obtain ⟨source, _, kept, _⟩ := readInsert_ok read
  rw [Insert.rows, kept, Source.rows_withRows] at member
  simpa using (List.mem_filter.mp member).2

theorem alignRows_even (some_row : source.rows ≠ [])
    (widths : ∀ row ∈ source.rows, row.length = columns.length) :
    alignRows id columns source = .ok ⟨id, columns, source, 0⟩ := by
  have kept : (source.rows.filter fun row => row.length == columns.length) = source.rows :=
    List.filter_eq_self.mpr fun row member => by simp [widths row member]
  have rejected : (source.rows.countP fun row =>
      row.length != columns.length && !isArtifact row) = 0 :=
    List.countP_eq_zero.mpr fun row member => by simp [widths row member]
  rw [alignRows, kept, rejected]
  simp [some_row]

theorem alignRows_none (widths : ∀ row ∈ source.rows, row.length ≠ columns.length) :
    alignRows id columns source = .error .noRows := by
  have kept : (source.rows.filter fun row => row.length == columns.length) = [] :=
    List.filter_eq_nil_iff.mpr fun row member => by simp [widths row member]
  rw [alignRows, kept]
  rfl

section Extra

variable {rows : List Row} {extra : Row}

/-- A row too many that does not fit is rejected, if it is data. -/
theorem alignRows_extra (some_row : rows ≠ []) (widths : ∀ row ∈ rows, row.length = columns.length)
    (narrow : extra.length ≠ columns.length) :
    alignRows id columns (.values (rows ++ [extra])) =
      .ok ⟨id, columns, .values rows, if isArtifact extra then 0 else 1⟩ := by
  have kept : (rows.filter fun row => row.length == columns.length) = rows :=
    List.filter_eq_self.mpr fun row member => by simp [widths row member]
  have rejected : (rows.countP fun row => row.length != columns.length && !isArtifact row) = 0 :=
    List.countP_eq_zero.mpr fun row member => by simp [widths row member]
  cases artifact : isArtifact extra <;>
    simp [alignRows, Source.rows, Source.withRows, kept, rejected, some_row, narrow, artifact]

/-- A row that alone fits is kept, and the others are rejected, if they are data. -/
theorem alignRows_only_extra (widths : ∀ row ∈ rows, row.length ≠ columns.length)
    (data : ∀ row ∈ rows, isArtifact row = false) (fits : extra.length = columns.length) :
    alignRows id columns (.values (rows ++ [extra])) =
      .ok ⟨id, columns, .values [extra], rows.length⟩ := by
  have kept : (rows.filter fun row => row.length == columns.length) = [] :=
    List.filter_eq_nil_iff.mpr fun row member => by simp [widths row member]
  have rejected : (rows.countP fun row => row.length != columns.length && !isArtifact row) =
      rows.length :=
    List.countP_eq_length.mpr fun row member => by simp [widths row member, data row member]
  simp [alignRows, Source.rows, Source.withRows, kept, rejected, fits]

end Extra

end SeedCoverage.Sql

import SeedCoverage.Proofs.Coverage.Verdicts
import SeedCoverage.Proofs.Statement.Align

/-! What a conflict clause behind a list of records does to the figures. Its target is taken for one
more row, and only the lone column `name` is known not to be one. -/
namespace SeedCoverage.Corpus

open Text Sql

/-- A clause that passes over rows whose `keys` are already there. -/
def conflictClause (keys : List Text) : Text := " ON CONFLICT " ++ (group keys ++ " DO NOTHING")

variable {catalog : Catalog} {id : catalog.Id} {columns keys : List Text} {records : List Record}
  {width : Nat}

theorem valueRows_conflictClause (names : ∀ key ∈ keys, isIdentifier key = true) :
    valueRows (conflictClause keys ++ [';']) = [keys] := by
  have balanced : Balanced (listed keys) := .listed rfl (by decide) (by decide)
    fun key member => (Cell.of_identifier (names key member)).balanced
  have cells : splitTop ',' (listed keys) = keys :=
    splitTop_listed fun key member => .of_identifier (names key member)
  have shape : conflictClause keys ++ [';'] =
      " ON CONFLICT " ++ ('(' :: listed keys ++ ')' :: (" DO NOTHING" ++ [';'])) := by
    unfold conflictClause group
    rw [List.append_assoc, List.append_assoc, List.append_assoc]
    rfl
  rw [shape, valueRows_eq, rowTexts_append (by decide), rowTexts_group balanced,
    rowTexts_append (by decide), rowTexts_semicolon]
  rw [List.map_cons, List.map_nil, cells]

theorem Sealed.of_conflict {table : Text} (identifier : isIdentifier table = true)
    (identifiers : ∀ column ∈ columns, isIdentifier column = true) (records : List Record)
    (names : ∀ key ∈ keys, isIdentifier key = true) :
    Sealed (recordsStatement table columns records ++ conflictClause keys) := by
  have words : Reads inStatement .start " ON CONFLICT " .start := .chars rfl (by decide)
  have ends : Reads inStatement .start " DO NOTHING" .start := .chars rfl (by decide)
  have clause : Reads inStatement .start (conflictClause keys) .start :=
    words.append ((reads_identifiers names).append ends (.of_head (by decide))) (.of_last (by decide))
  have front : (conflictClause keys).head? = some ' ' := rfl
  refine ⟨(reads_recordsStatement identifier identifiers records).append clause
    (.of_head (by simp [front])), fun rest => ?_⟩
  rw [List.append_assoc]
  exact recordsStatement_begins _ _ _ _

theorem readScript_records (some_column : columns ≠ [])
    (identifiers : ∀ column ∈ columns, isIdentifier column = true) (records : List Record) :
    readScript catalog none (recordsStatement (catalog.get id).name columns records ++ [';']) =
      [alignRows id columns (.values (records.map renderRecord))] := by
  have closed := Sealed.of_records (catalog.identifier_name id) identifiers records
  have whole := @readScript_script [recordsStatement (catalog.get id).name columns records]
    (by simpa using closed) catalog none
  refine whole.trans ?_
  rw [List.map_singleton, readInsert_records rfl some_column identifiers, valueRows_semicolon,
    List.append_nil]

theorem readScript_conflict (some_column : columns ≠ [])
    (identifiers : ∀ column ∈ columns, isIdentifier column = true) (records : List Record)
    (names : ∀ key ∈ keys, isIdentifier key = true) :
    readScript catalog none
        (recordsStatement (catalog.get id).name columns records ++ conflictClause keys ++ [';']) =
      [alignRows id columns (.values (records.map renderRecord ++ [keys]))] := by
  have closed := Sealed.of_conflict (catalog.identifier_name id) identifiers records names
  have whole := @readScript_script
    [recordsStatement (catalog.get id).name columns records ++ conflictClause keys]
    (by simpa using closed) catalog none
  refine whole.trans ?_
  rw [List.map_singleton, List.append_assoc, readInsert_records rfl some_column identifiers,
    valueRows_conflictClause names]

/-- The two tallies show the same counts and the same rejected rows. -/
def SameFigures (left right : Tally catalog) : Prop :=
  (∀ table, left.count table = right.count table) ∧ left.rejected = right.rejected

theorem sameFigures_fold_values (tally : Tally catalog) (rows other : List Row)
    (rejected more : Nat) (origin : Text) :
    SameFigures (tally.fold ⟨id, columns, .values rows, rejected⟩ origin 1)
        (tally.fold ⟨id, columns, .values other, more⟩ origin 1) ↔
      Count.ofVerdicts (verdicts (catalog.get id).required columns rows) =
        Count.ofVerdicts (verdicts (catalog.get id).required columns other) ∧ rejected = more := by
  obtain ⟨counts, rejects⟩ := tally.fold_values id columns rows rejected origin 1
  obtain ⟨counts', rejects'⟩ := tally.fold_values id columns other more origin 1
  constructor
  · rintro ⟨same, equal⟩
    have here := (counts id).symm.trans ((same id).trans (counts' id))
    rw [if_pos rfl, if_pos rfl, Count.plus_inj] at here
    exact ⟨here, Nat.add_left_cancel (rejects.symm.trans (equal.trans rejects'))⟩
  · rintro ⟨found, rfl⟩
    refine ⟨fun table => (counts table).trans (Eq.trans ?_ (counts' table).symm),
      rejects.trans rejects'.symm⟩
    rw [found]

section Target

variable {rows : List Row}

/-- Behind rows that fit, the target makes no difference just where it is known for what it is. -/
theorem sameFigures_of_fitting (some_row : rows ≠ [])
    (even : ∀ row ∈ rows, row.length = columns.length) (tally : Tally catalog) (origin : Text) :
    SameFigures (tally.foldAll origin [alignRows id columns (.values (rows ++ [keys]))])
        (tally.foldAll origin [alignRows id columns (.values rows)]) ↔ isArtifact keys = true := by
  have plain : alignRows id columns (.values rows) = .ok ⟨id, columns, .values rows, 0⟩ :=
    alignRows_even some_row even
  by_cases keyed : keys.length = columns.length
  · -- The target is kept as one more row.
    have kept : alignRows id columns (.values (rows ++ [keys])) =
        .ok ⟨id, columns, .values (rows ++ [keys]), 0⟩ := by
      refine alignRows_even (by simp [Source.rows]) fun row member => ?_
      rcases List.mem_append.mp member with listed | target
      · exact even row listed
      · exact (List.mem_singleton.mp target) ▸ keyed
    rw [plain, kept]
    refine (sameFigures_fold_values tally _ _ 0 0 origin).trans ?_
    rw [ofVerdicts_concat_eq_iff]
    exact and_iff_left rfl
  · -- The target is given up, and that counts unless it is known.
    rw [plain, alignRows_extra some_row even keyed]
    refine (sameFigures_fold_values tally _ _ _ 0 origin).trans ?_
    simp

/-- Behind rows that do not fit, it makes none just where it does not fit either. -/
theorem sameFigures_of_narrow (some_row : rows ≠ [])
    (narrow : ∀ row ∈ rows, row.length ≠ columns.length) (data : ∀ row ∈ rows, isArtifact row = false)
    (tally : Tally catalog) (origin : Text) :
    SameFigures (tally.foldAll origin [alignRows id columns (.values (rows ++ [keys]))])
        (tally.foldAll origin [alignRows id columns (.values rows)]) ↔
      keys.length ≠ columns.length := by
  have plain : alignRows id columns (.values rows) = .error .noRows := alignRows_none narrow
  by_cases keyed : keys.length = columns.length
  · -- The target alone is kept, so that the rows are given up where they were passed over.
    rw [plain, alignRows_only_extra narrow data keyed]
    have rejects := (tally.fold_values id columns [keys] rows.length origin 1).2
    have more : 0 < rows.length := List.length_pos_iff.mpr some_row
    refine iff_of_false (fun same => ?_) fun other => other keyed
    have equal : tally.rejected + rows.length = tally.rejected := rejects.symm.trans same.2
    omega
  · have passed : alignRows id columns (.values (rows ++ [keys])) = .error .noRows := by
      refine alignRows_none fun row member => ?_
      rcases List.mem_append.mp member with listed | target
      · exact narrow row listed
      · exact (List.mem_singleton.mp target) ▸ keyed
    rw [plain, passed]
    exact iff_of_true ⟨fun _ => rfl, rfl⟩ keyed

end Target

/-- The clause makes no difference just where the records fit the column list and the target is the
lone column `name`, or where neither of them fits it. -/
theorem conflictClause_sameFigures_iff (some_column : columns ≠ [])
    (identifiers : ∀ column ∈ columns, isIdentifier column = true) (some_record : records ≠ [])
    (widths : ∀ record ∈ records, record.length = width)
    (names : ∀ key ∈ keys, isIdentifier key = true) (tally : Tally catalog) (origin : Text) :
    SameFigures
        (tally.foldAll origin (readScript catalog none
          (recordsStatement (catalog.get id).name columns records ++ conflictClause keys ++ [';'])))
        (tally.foldAll origin (readScript catalog none
          (recordsStatement (catalog.get id).name columns records ++ [';']))) ↔
      (width = columns.length ∧ isArtifact keys = true) ∨
        (width ≠ columns.length ∧ keys.length ≠ columns.length) := by
  have some_row : records.map renderRecord ≠ [] := by simpa using some_record
  have rowWidths : ∀ row ∈ records.map renderRecord, row.length = width := by
    intro row member
    obtain ⟨record, present, rfl⟩ := List.mem_map.mp member
    exact (length_renderRecord record).trans (widths record present)
  have data : ∀ row ∈ records.map renderRecord, isArtifact row = false := by
    intro row member
    obtain ⟨record, _, rfl⟩ := List.mem_map.mp member
    exact isArtifact_renderValue record
  rw [readScript_conflict some_column identifiers records names,
    readScript_records some_column identifiers records]
  by_cases fits : width = columns.length
  · have even : ∀ row ∈ records.map renderRecord, row.length = columns.length :=
      fun row member => (rowWidths row member).trans fits
    refine (sameFigures_of_fitting some_row even tally origin).trans ?_
    simp [fits]
  · have narrow : ∀ row ∈ records.map renderRecord, row.length ≠ columns.length :=
      fun row member => (rowWidths row member).symm ▸ fits
    refine (sameFigures_of_narrow some_row narrow data tally origin).trans ?_
    simp [fits]

theorem conflictClause_name_sameFigures : SameFigures
    ((Tally.start .builtin false).foldAll "seed.sql" (readScript .builtin none
      (recordsStatement "items" ["name", "icon"] [[some "Sword", none]] ++
        conflictClause ["name"] ++ [';'])))
    ((Tally.start .builtin false).foldAll "seed.sql" (readScript .builtin none
      (recordsStatement "items" ["name", "icon"] [[some "Sword", none]] ++ [';']))) :=
  (@conflictClause_sameFigures_iff .builtin ⟨0, by decide⟩ ["name", "icon"] ["name"]
    [[some "Sword", none]] 2 (by decide) (by decide) (by decide) (by decide) (by decide)
    (.start .builtin false) "seed.sql").mpr (.inl ⟨rfl, by decide⟩)

/-- A target as wide as the column list is counted as a row. -/
theorem conflictClause_columns_counted : ¬SameFigures
    ((Tally.start .builtin false).foldAll "seed.sql" (readScript .builtin none
      (recordsStatement "items" ["name", "icon"] [[some "Sword", none]] ++
        conflictClause ["name", "icon"] ++ [';'])))
    ((Tally.start .builtin false).foldAll "seed.sql" (readScript .builtin none
      (recordsStatement "items" ["name", "icon"] [[some "Sword", none]] ++ [';']))) := by
  have plain := @readScript_records .builtin ⟨0, by decide⟩ ["name", "icon"] (by decide) (by decide)
    [[some "Sword", none]]
  have conflicting := @readScript_conflict .builtin ⟨0, by decide⟩ ["name", "icon"] ["name", "icon"]
    (by decide) (by decide) [[some "Sword", none]] (by decide)
  rintro ⟨counts, _⟩
  have items := counts ⟨0, by decide⟩
  rw [show "items".toList = (Catalog.builtin.get ⟨0, by decide⟩).name from rfl, plain, conflicting]
    at items
  exact absurd items (by decide +kernel)

end SeedCoverage.Corpus

import SeedCoverage.Proofs.Coverage.Bulk
import SeedCoverage.Proofs.Coverage.LiteralSelect
import SeedCoverage.Proofs.Statement.Tail

/-! What the tail of a literal SELECT changes. A statement with one row written out counts as that row,
with a tail as without one, just where no FROM stands at the top level of the tail. -/
namespace SeedCoverage

open Text Sql

variable {catalog : Catalog} {id : catalog.Id} {hint : Option Text} {columns : List Text}

/-- The statement has `row` and no other, rejects none, and whatever was counted before, adds one row
to the table `id`. -/
def Sql.OneRow (hint : Option Text) (statement : Text) (id : catalog.Id) (row : Row) : Prop :=
  ∃ insert : Insert catalog, readInsert catalog hint statement = .ok insert ∧ insert.table = id ∧
    insert.rows = [row] ∧ insert.rejected = 0 ∧ insert.leader? = none ∧
      ∀ (tally : Tally catalog) (origin : Text) (place : Nat),
        ((tally.fold insert origin place).count id).total = (tally.count id).total + 1

theorem Sql.OneRow.of_record {statement body : Text} {record : Record} (own : readsRelation body = false)
    (width : record.length = columns.length)
    (read : readInsert catalog hint statement =
      alignRows id columns (.select [renderRecord record] body)) :
    OneRow hint statement id (renderRecord record) := by
  have aligned : alignRows id columns (.select [renderRecord record] body) =
      .ok ⟨id, columns, .select [renderRecord record] body, 0⟩ :=
    alignRows_even (by simp [Source.rows]) fun row member => by
      obtain rfl := List.mem_singleton.mp member
      rw [length_renderRecord, width]
  refine ⟨_, read.trans aligned, rfl, rfl, rfl, Insert.leader?_own own, fun tally origin place => ?_⟩
  have one : (tally.gain ⟨id, columns, .select [renderRecord record] body, 0⟩).total = 1 := by
    rw [Tally.gain, Insert.leader?_own own]
    exact congrArg Count.total (ofVerdicts_records _ columns [record])
  rw [(tally.fold_spec _ origin place).1, if_pos rfl, Count.plus, one]

/-- A record that is selected counts as one row, and so it does with a tail behind it just where no FROM
stands at the top level of the tail. Like the statement, the tail is looked at without the blanks at its
end. -/
theorem oneRow_tail_iff {record : Record} {tail : Text}
    (admits : hint.all (same (catalog.get id).name) = true) (some_column : columns ≠ [])
    (identifiers : ∀ column ∈ columns, isIdentifier column = true)
    (width : record.length = columns.length) (closing : Tail (trimEnd tail)) :
    OneRow hint (selectStatement (catalog.get id).name columns [renderRecord record] ++ [';']) id
        (renderRecord record) ∧
      (OneRow hint (tailStatement (catalog.get id).name columns (renderRecord record) tail ++ [';']) id
          (renderRecord record) ↔
        phraseIn "from" (trimEnd tail) = none) := by
  have closed : ∀ token ∈ renderRecord record, Closed token := by
    intro token member
    obtain ⟨value, _, rfl⟩ := List.mem_map.mp member
    exact .of_value value
  have some_token : renderRecord record ≠ [] := by
    rw [ne_eq, ← List.length_eq_zero_iff, length_renderRecord, width, List.length_eq_zero_iff]
    exact some_column
  have selectable : Selectable [renderRecord record] := by
    refine ⟨by simp, fun row member => ?_, fun row member => ?_⟩
    · exact List.mem_singleton.mp member ▸ some_token
    · exact List.mem_singleton.mp member ▸ closed
  have trimmed : ∀ c ∈ (trimEnd tail).getLast?, isBlank c = false := isBlank_of_trimEnd
  have selected := closing.selectRows_eq trimmed closed
  have plain := readInsert_select admits some_column identifiers selectable
  have read : readInsert catalog hint
      (tailStatement (catalog.get id).name columns (renderRecord record) tail ++ [';']) = _ :=
    readInsert_tail admits some_column identifiers closing
  refine ⟨.of_record selectable.readsRelation_eq width plain, ?_⟩
  constructor
  · rintro ⟨insert, reading, _, rows, _⟩
    cases source : phraseIn "from" (trimEnd tail) with
    | none => rfl
    | some place =>
      have kept : renderRecord record ∈ insert.rows := by simp [rows]
      have member : renderRecord record ∈
          selectRows (clause (renderRecord record) ++ ' ' :: trimEnd tail) :=
        (alignRows_sublist (read.symm.trans reading)).subset kept
      rw [selected] at member
      have projected := List.mem_singleton.mp (List.mem_filter.mp member).1
      exact absurd projected.symm (closing.projection_ne some_token closed source)
  · intro absent
    have own := closing.readsRelation_eq trimmed closed
    have filled : [renderRecord record].filter (fun row => !row.isEmpty) = [renderRecord record] := by
      simp [some_token]
    rw [absent] at own
    rw [selected, closing.projection_clause some_token closed absent, filled] at read
    exact .of_record own width read

/-- A translation of an item. -/
def translation : Record := [some "1", some "en", some "Sword", none]

def translationColumns : List Text := ["item_id", "locale", "name", "description"]

/-- A tail with a condition and blanks behind it. -/
def updateTail : Text :=
  "ON CONFLICT (item_id, locale) DO UPDATE SET name = EXCLUDED.name WHERE items.id > 0 RETURNING id "

/-- A conflict clause with a condition, and what to return, change nothing. -/
theorem oneRow_updateTail :
    Tail (trimEnd updateTail) ∧
      @OneRow .builtin none (tailStatement "item_translations" translationColumns
        (renderRecord translation) updateTail ++ [';']) ⟨1, by decide⟩ (renderRecord translation) := by
  have closing : Tail (trimEnd updateTail) := by decide +kernel
  have counted := @oneRow_tail_iff .builtin ⟨1, by decide⟩ none translationColumns translation
    updateTail rfl (by decide) (by decide +kernel) rfl closing
  exact ⟨closing, counted.2.mpr (by decide +kernel)⟩

/-- A tail with a FROM that reads from no relation. -/
def distinctTail : Text :=
  "ON CONFLICT (item_id, locale) DO UPDATE SET name = EXCLUDED.name " ++
    "WHERE item_translations.name IS DISTINCT FROM EXCLUDED.name"

/-- With IS DISTINCT FROM in its tail, a row that is written out is read with the tail in its last value
and counted once for each of two items. -/
theorem distinctTail_counts_items :
    Tail distinctTail ∧ trimEnd distinctTail = distinctTail ∧
      ∃ insert : Insert .builtin,
        readInsert .builtin none (tailStatement "item_translations" translationColumns
          (renderRecord translation) distinctTail ++ [';']) = .ok insert ∧
        insert.rows ≠ [renderRecord translation] ∧ insert.Bulk ∧
        (Tally.twoItems.count insert.table).total = 0 ∧
        ((Tally.twoItems.fold insert "seed.sql" 2).count insert.table).total = 2 := by
  have facts : (readInsert .builtin none (tailStatement "item_translations" translationColumns
      (renderRecord translation) distinctTail ++ [';'])).toOption.any fun insert =>
        insert.rows ≠ [renderRecord translation] ∧ insert.Bulk ∧
        (Tally.twoItems.count insert.table).total = 0 ∧
        ((Tally.twoItems.fold insert "seed.sql" 2).count insert.table).total = 2 := by
    decide +kernel
  obtain ⟨insert, read, facts⟩ := exists_ok facts
  exact ⟨by decide +kernel, by decide +kernel, insert, read, of_decide_eq_true facts⟩

end SeedCoverage

import SeedCoverage.Proofs.Catalog.Lookup
import SeedCoverage.Proofs.Coverage.Gaps
import SeedCoverage.Proofs.Coverage.Verdicts
import SeedCoverage.Proofs.Statement.Align

/-! What a bulk insert adds to its table. It adds the rows of the table that it follows, unless each of
its clauses projects the lone word `name`, which is taken for the target of a conflict. -/
namespace SeedCoverage

open Text Sql

variable {catalog : Catalog} {insert : Insert catalog} {hint : Option Text} {statement : Text}

namespace Sql.Insert

/-- One column, and nothing for it but the word `name`. -/
def OnlyName (insert : Insert catalog) : Prop :=
  insert.columns.length = 1 ∧ ∀ row ∈ insert.rows, isArtifact row = true

instance (insert : Insert catalog) : Decidable insert.OnlyName :=
  inferInstanceAs (Decidable (_ ∧ _))

theorem Bulk.leads (bulk : insert.Bulk) :
    ∃ leader, insert.leader? = some leader ∧ catalog.parentOf insert.table = some leader ∧
      leader ≠ insert.table := by
  obtain ⟨⟨body, selects, reads⟩, follows⟩ := bulk
  obtain ⟨leader, parent, other⟩ := Catalog.exists_parent follows
  refine ⟨leader, ?_, parent, other⟩
  unfold leader?
  cases source : insert.source with
  | values rows => simp [source, Source.body?] at selects
  | select rows query =>
    obtain rfl : query = body := by simpa [source, Source.body?] using selects
    simp [reads, parent]

theorem judged_eq_nil_iff : insert.judged = [] ↔ ∀ row ∈ insert.rows, isArtifact row = true := by
  have fields := verdicts_fields (catalog.get insert.table).required insert.columns insert.rows
  rw [← List.map_eq_nil_iff (f := Prod.snd), judged, fields, List.map_eq_nil_iff,
    List.filter_eq_nil_iff]
  simp

theorem length_of_isArtifact {row : Row} (artifact : isArtifact row = true) : row.length = 1 := by
  unfold isArtifact at artifact
  split at artifact
  · rfl
  · cases artifact

/-- Of a statement that is read nothing is found just where it lists the lone word `name` only. -/
theorem judged_eq_nil_iff_onlyName (read : readInsert catalog hint statement = .ok insert) :
    insert.judged = [] ↔ insert.OnlyName := by
  rw [judged_eq_nil_iff]
  refine ⟨fun artifacts => ⟨?_, artifacts⟩, And.right⟩
  obtain ⟨_, _, _, some_row⟩ := readInsert_ok read
  obtain ⟨row, member⟩ := List.exists_mem_of_ne_nil _ some_row
  rw [← length_of_mem_rows read member]
  exact length_of_isArtifact (artifacts row member)

end Sql.Insert

namespace Tally

/-- A bulk insert adds the rows of its leader, if anything is found of its own rows. -/
theorem count_fold_bulk (tally : Tally catalog) {leader : catalog.Id}
    (leads : insert.leader? = some leader) (origin : Text) (place : Nat) :
    (tally.fold insert origin place).count insert.table =
      if insert.judged = [] then tally.count insert.table
      else (tally.count insert.table).add (tally.count leader).total
        (insert.judged.all fun verdict => verdict.2.isEmpty) := by
  rw [(tally.fold_spec insert origin place).1, if_pos rfl, gain, leads]
  by_cases nothing : insert.judged = []
  · simp [nothing, Count.plus_zero]
  · simp [nothing, ← Count.add_eq_plus]

/-- Folded into any tally, a bulk insert adds as many rows to its table as the table that it follows
has so far, just where that is none or the insert has something else than the lone word `name`. Where
it has not, it adds nothing. -/
theorem bulk_follows_iff (read : readInsert catalog hint statement = .ok insert)
    (bulk : insert.Bulk) :
    ∃ parent, catalog.parentOf insert.table = some parent ∧ parent ≠ insert.table ∧
      ∀ (tally : Tally catalog) (origin : Text) (place : Nat),
        (tally.count insert.table).total.toNat + (tally.count parent).total.toNat < UInt64.size →
        (((tally.fold insert origin place).count insert.table).total.toNat =
            (tally.count insert.table).total.toNat + (tally.count parent).total.toNat ↔
          (tally.count parent).total = 0 ∨ ¬insert.OnlyName) ∧
        (insert.OnlyName →
          (tally.fold insert origin place).count insert.table = tally.count insert.table) := by
  obtain ⟨parent, leads, follows, other⟩ := bulk.leads
  refine ⟨parent, follows, other, fun tally origin place room => ?_⟩
  have folded := tally.count_fold_bulk leads origin place
  have judged := Insert.judged_eq_nil_iff_onlyName read
  by_cases lone : insert.OnlyName
  · rw [if_pos (judged.mpr lone)] at folded
    refine ⟨?_, fun _ => folded⟩
    rw [folded]
    simp [lone, ← UInt64.toNat_inj]
  · rw [if_neg (mt judged.mp lone)] at folded
    refine ⟨iff_of_true ?_ (.inr lone), fun only => absurd only lone⟩
    rw [folded, Count.add, UInt64.toNat_add]
    exact Nat.mod_eq_of_lt room

/-- Two items and nothing else. -/
def twoItems : Tally .builtin :=
  (start .builtin false).step
    ⟨readInsert .builtin none "INSERT INTO items (name) VALUES ('Sword'), ('Shield');", "seed.sql", 1⟩

/-- Next to a clause that projects something else, the word `name` does no harm. -/
theorem bulk_follows_twoItems :
    ∃ insert : Insert .builtin,
      readInsert .builtin none
        "INSERT INTO item_translations (name) SELECT name FROM items UNION ALL SELECT 'x' FROM y;" =
          .ok insert ∧
      insert.Bulk ∧ ((twoItems.fold insert "seed.sql" 2).count insert.table).total.toNat = 2 := by
  have facts : (readInsert .builtin none
      "INSERT INTO item_translations (name) SELECT name FROM items UNION ALL SELECT 'x' FROM y;"
      ).toOption.any fun insert => insert.Bulk ∧ ¬insert.OnlyName ∧
        Catalog.builtin.parentOf insert.table = some ⟨0, by decide⟩ ∧
          (twoItems.count insert.table).total = 0 := by
    decide +kernel
  obtain ⟨insert, read, facts⟩ := exists_ok facts
  obtain ⟨bulk, other, follows, none⟩ := of_decide_eq_true facts
  obtain ⟨parent, parented, _, adds⟩ := bulk_follows_iff read bulk
  obtain rfl : (⟨0, by decide⟩ : Catalog.builtin.Id) = parent :=
    Option.some.inj (follows.symm.trans parented)
  have two : (twoItems.count ⟨0, by decide⟩).total = 2 := by decide +kernel
  have room : (twoItems.count insert.table).total.toNat +
      (twoItems.count ⟨0, by decide⟩).total.toNat < UInt64.size := by
    rw [none, two]
    decide
  have sum := (adds twoItems "seed.sql" 2 room).1.mpr (.inr other)
  rw [none, two] at sum
  exact ⟨insert, read, bulk, sum⟩

/-- A bulk insert of the lone column `name` from two items adds no row. -/
theorem bulk_name_follows_nothing :
    ∃ insert : Insert .builtin,
      readInsert .builtin none "INSERT INTO item_translations (name) SELECT name FROM items;" =
        .ok insert ∧
      insert.Bulk ∧ Catalog.builtin.parentOf insert.table = some ⟨0, by decide⟩ ∧
      (twoItems.count ⟨0, by decide⟩).total = 2 ∧
      ((twoItems.fold insert "seed.sql" 2).count insert.table).total = 0 := by
  have facts : (readInsert .builtin none
      "INSERT INTO item_translations (name) SELECT name FROM items;").toOption.any fun insert =>
        insert.Bulk ∧ Catalog.builtin.parentOf insert.table = some ⟨0, by decide⟩ ∧
          ((twoItems.fold insert "seed.sql" 2).count insert.table).total = 0 := by
    decide +kernel
  obtain ⟨insert, read, facts⟩ := exists_ok facts
  obtain ⟨bulk, follows, none⟩ := of_decide_eq_true facts
  exact ⟨insert, read, bulk, follows, by decide +kernel, none⟩

end Tally
end SeedCoverage

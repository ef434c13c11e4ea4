import SeedCoverage.Proofs.Coverage.Bulk
import SeedCoverage.Proofs.Coverage.Room

/-! What counting one statement changes, in numbers. Its own table gains its rows, or those of the table
that it follows; every other table, that one included, is left as it is. -/
namespace SeedCoverage

open Text Sql

variable {catalog : Catalog}

private theorem Count.toNat_add_one (complete : Bool) :
    (Count.add {} 1 complete).total.toNat = 1 ∧
      (Count.add {} 1 complete).complete.toNat = if complete then 1 else 0 := by
  cases complete <;> decide

namespace Sql.Insert

variable (insert : Insert catalog)

/-- The rows that are data. -/
def data : List Row := insert.rows.filter fun row => !isArtifact row

/-- The token of a row under the first column of that name, ASCII letter case aside. -/
def token? (row : Row) (field : Text) : Option Text :=
  ((insert.columns.zip row).find? fun entry => same entry.1 field).map Prod.snd

/-- Every required field of the table has a token, and that is present. -/
def completes (row : Row) : Bool :=
  (catalog.get insert.table).required.all fun field => (insert.token? row field).any isPresent

theorem completes_eq (row : Row) :
    insert.completes row =
      (missingFields (catalog.get insert.table).required insert.columns row).isEmpty := by
  have tokens (field : Text) :
      (insert.columns.findIdx? fun column => same column field).bind (row[·]?) =
        insert.token? row field :=
    findIdx?_bind (same · field) insert.columns row
  rw [completes, missingFields, Bool.eq_iff_iff]
  simp [tokens]

theorem judged_eq_data :
    insert.judged.map (fun verdict => verdict.2.isEmpty) = insert.data.map insert.completes := by
  have fields : insert.judged.map Prod.snd = insert.data.map
      (missingFields (catalog.get insert.table).required insert.columns) := verdicts_fields _ _ _
  calc insert.judged.map (fun verdict => verdict.2.isEmpty)
      = (insert.judged.map Prod.snd).map List.isEmpty := by
        rw [List.map_map]
        rfl
    _ = insert.data.map insert.completes := by
      rw [fields, List.map_map]
      exact List.map_congr_left fun row _ => (insert.completes_eq row).symm

theorem judged_eq_nil_iff_data : insert.judged = [] ↔ insert.data = [] := by
  rw [← List.map_eq_nil_iff, insert.judged_eq_data, List.map_eq_nil_iff]

theorem all_judged_data :
    insert.judged.all (fun verdict => verdict.2.isEmpty) = insert.data.all insert.completes := by
  simpa [Function.comp_def] using congrArg (List.all · id) insert.judged_eq_data

end Sql.Insert

namespace Tally

/-- What is different behind a statement that is counted. -/
structure Counted (before after : Tally catalog) (insert : Insert catalog) : Prop where
  parsed : after.parsed = before.parsed + 1
  rejected : after.rejected = before.rejected + insert.rejected
  skipped : after.skipped = before.skipped
  tracking : after.tracking = before.tracking
  gaps : ∃ news, after.gaps = before.gaps ++ news ∧
    ∀ gap ∈ news, before.tracking = true ∧ gap.table = (catalog.get insert.table).name
  others : ∀ id, id ≠ insert.table → after.count id = before.count id
  nothing : insert.data = [] → after.count insert.table = before.count insert.table
  bulk : insert.data ≠ [] → insert.Bulk →
    ∃ parent, catalog.parentOf insert.table = some parent ∧ parent ≠ insert.table ∧
      (after.count insert.table).total.toNat =
        (before.count insert.table).total.toNat + (before.count parent).total.toNat ∧
      (after.count insert.table).complete.toNat =
        (before.count insert.table).complete.toNat +
          if insert.data.all insert.completes then (before.count parent).total.toNat else 0
  own : ¬insert.Bulk →
    (after.count insert.table).total.toNat =
      (before.count insert.table).total.toNat + insert.data.length ∧
    (after.count insert.table).complete.toNat =
      (before.count insert.table).complete.toNat + insert.data.countP insert.completes

variable (tally : Tally catalog)

/-- Where no addition overflows, a count is raised by as many rows as are added. -/
theorem count_fold_room {insert : Insert catalog}
    (room : (tally.count insert.table).Room (tally.additions insert)) (origin : Text) (place : Nat) :
    ((tally.fold insert origin place).count insert.table).total.toNat =
        (tally.count insert.table).total.toNat +
          ((tally.additions insert).map fun more => more.total.toNat).sum ∧
      ((tally.fold insert origin place).count insert.table).complete.toNat =
        (tally.count insert.table).complete.toNat +
          ((tally.additions insert).map fun more => more.complete.toNat).sum := by
  rw [count_fold_additions]
  exact Count.toNat_foldl_plus room

theorem additions_own {insert : Insert catalog} (alone : insert.leader? = none) :
    ((tally.additions insert).map fun more => more.total.toNat).sum = insert.data.length ∧
      ((tally.additions insert).map fun more => more.complete.toNat).sum =
        insert.data.countP insert.completes := by
  have each : tally.additions insert =
      insert.data.map fun row => Count.add {} 1 (insert.completes row) := by
    have fields := congrArg (List.map (Count.add {} 1)) insert.judged_eq_data
    rw [additions, alone]
    simpa only [List.map_map, Function.comp_def] using fields
  rw [each]
  generalize insert.data = rows
  induction rows with
  | nil => exact ⟨rfl, rfl⟩
  | cons row rest ih =>
    obtain ⟨total, complete⟩ := ih
    obtain ⟨one, full⟩ := Count.toNat_add_one (insert.completes row)
    rw [List.map_cons, List.map_cons, List.map_cons, List.sum_cons, List.sum_cons, total, complete,
      one, full, List.countP_cons, List.length_cons]
    exact ⟨Nat.add_comm .., Nat.add_comm ..⟩

theorem additions_bulk {insert : Insert catalog} {leader : catalog.Id}
    (leads : insert.leader? = some leader) (something : insert.data ≠ []) :
    tally.additions insert =
      [.add {} (tally.count leader).total (insert.data.all insert.completes)] := by
  have judged : insert.judged ≠ [] := mt insert.judged_eq_nil_iff_data.mp something
  rw [additions, leads, ← insert.all_judged_data]
  exact if_neg fun empty => judged (List.isEmpty_iff.mp empty)

/-- Counting a statement is one step of accounting and nothing else, as long as no addition overflows.
It is noted as read, with the rows that it rejects. Without data it changes no count. A bulk insert
raises the count of its table by the rows that the table it follows has so far, all of which are taken
for complete or for incomplete; any other statement raises it by its own data. -/
theorem fold_counted {insert : Insert catalog}
    (room : (tally.count insert.table).Room (tally.additions insert)) (origin : Text) (place : Nat) :
    Counted tally (tally.fold insert origin place) insert := by
  obtain ⟨counts, parsed, skipped, rejected⟩ := tally.fold_spec insert origin place
  obtain ⟨total, complete⟩ := tally.count_fold_room room origin place
  have alone (own : ¬insert.Bulk) : insert.leader? = none :=
    Option.eq_none_iff_forall_ne_some.mpr fun leader leads => own (Insert.bulk_of_leader leads).1
  obtain ⟨tracking, gaps⟩ := tally.fold_gaps insert origin place
  refine ⟨parsed, rejected, skipped, tracking, ⟨_, gaps, ?_⟩, ?_, ?_, ?_, ?_⟩
  · intro gap member
    split at member
    · rename_i tracked
      exact ⟨tracked, (tally.mem_news member).1⟩
    · cases member
  · intro id other
    rw [counts, if_neg other]
  · intro nothing
    rw [tally.fold_empty origin place (insert.judged_eq_nil_iff_data.mpr nothing)]
    rfl
  · intro something bulk
    obtain ⟨leader, leads, follows, other⟩ := bulk.leads
    rw [tally.additions_bulk leads something] at total complete
    refine ⟨leader, follows, other, ?_, ?_⟩
    · simpa [Count.add] using total
    · rw [complete]
      cases insert.data.all insert.completes <;> simp [Count.add]
  · intro own
    obtain ⟨rows, full⟩ := tally.additions_own (alone own)
    rw [total, complete, rows, full]
    exact ⟨rfl, rfl⟩

/-- Two creatures, and a translation of one of them that lacks its name. -/
def bestiary : Tally .builtin :=
  (start .builtin true).run [
    ⟨readInsert .builtin none
      "INSERT INTO creatures (name) VALUES ('Wolf'), ('Bear');", "seed.sql", 1⟩,
    ⟨readInsert .builtin none
      "INSERT INTO creature_translations (creature_id, locale) VALUES (1, 'de');", "seed.sql", 2⟩]

/-- A name for every creature there is. -/
def namedCreatures : Text :=
  "INSERT INTO creature_translations (Creature_Id, LOCALE, name) " ++
    "SELECT id, 'en', name FROM creatures;"

/-- Two translations more, both of them complete. -/
theorem bestiary_counted :
    ∃ insert : Insert .builtin,
      readInsert .builtin none namedCreatures = .ok insert ∧
      (bestiary.count insert.table).Room (bestiary.additions insert) ∧
      Counted bestiary (bestiary.fold insert "seed.sql" 3) insert ∧
      ((bestiary.fold insert "seed.sql" 3).count insert.table).total.toNat = 3 ∧
      ((bestiary.fold insert "seed.sql" 3).count insert.table).complete.toNat = 2 := by
  have facts : (readInsert .builtin none namedCreatures).toOption.any fun insert =>
      (bestiary.count insert.table).Room (bestiary.additions insert) ∧
        insert.data ≠ [] ∧ insert.Bulk ∧ insert.data.all insert.completes = true ∧
          Catalog.builtin.parentOf insert.table = some ⟨2, by decide⟩ ∧
            bestiary.count insert.table = ⟨1, 0⟩ := by
    decide +kernel
  obtain ⟨insert, read, facts⟩ := exists_ok facts
  obtain ⟨room, something, bulk, full, follows, one⟩ := of_decide_eq_true facts
  have counted := fold_counted bestiary room "seed.sql" 3
  obtain ⟨parent, parented, _, total, complete⟩ := counted.bulk something bulk
  obtain rfl : (⟨2, by decide⟩ : Catalog.builtin.Id) = parent :=
    Option.some.inj (follows.symm.trans parented)
  have two : (bestiary.count ⟨2, by decide⟩).total = 2 := by decide +kernel
  rw [one, two] at total complete
  rw [full] at complete
  exact ⟨insert, read, room, counted, total, complete⟩

end Tally
end SeedCoverage

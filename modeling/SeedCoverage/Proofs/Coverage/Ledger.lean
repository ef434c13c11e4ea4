import Mathlib.Algebra.BigOperators.Fin
import Mathlib.Algebra.Order.BigOperators.Group.Finset
import SeedCoverage.Proofs.Coverage.Counts
import SeedCoverage.Proofs.Coverage.Gaps

/-! Counts without a limit. A ledger counts what a tally counts, however many rows there are; the counts
of the tally are those of the ledger modulo the word size, whether or not one of them overflows. -/
namespace SeedCoverage

open Text Sql

variable {catalog : Catalog}

/-- The rows of one table and those of them that are complete, however many they are. -/
structure Extent where
  total : Nat := 0
  complete : Nat := 0
  deriving DecidableEq, Repr

def Extent.plus (extent more : Extent) : Extent :=
  ⟨extent.total + more.total, extent.complete + more.complete⟩

namespace Count

/-- The count is an extent modulo the word size. -/
structure Shows (count : Count) (extent : Extent) : Prop where
  total : count.total.toNat = extent.total % UInt64.size
  complete : count.complete.toNat = extent.complete % UInt64.size

theorem Shows.plus {count more : Count} {extent extra : Extent} (shown : count.Shows extent)
    (shown' : more.Shows extra) : (count.plus more).Shows (extent.plus extra) := by
  constructor
  · change (count.total + more.total).toNat = (extent.total + extra.total) % _
    rw [UInt64.toNat_add, shown.total, shown'.total]
    exact (Nat.add_mod ..).symm
  · change (count.complete + more.complete).toNat = (extent.complete + extra.complete) % _
    rw [UInt64.toNat_add, shown.complete, shown'.complete]
    exact (Nat.add_mod ..).symm

/-- As long as an extent fits into a word, it can be read off the count. -/
theorem Shows.exact {count : Count} {extent : Extent} (shown : count.Shows extent)
    (bounded : extent.complete ≤ extent.total) (fits : extent.total < UInt64.size) :
    count.total.toNat = extent.total ∧ count.complete.toNat = extent.complete := by
  obtain ⟨total, complete⟩ := shown
  rw [Nat.mod_eq_of_lt fits] at total
  rw [Nat.mod_eq_of_lt (Nat.lt_of_le_of_lt bounded fits)] at complete
  exact ⟨total, complete⟩

end Count

/-- The extents of all tables. -/
abbrev Ledger (catalog : Catalog) := catalog.PerTable Extent

namespace Ledger

def start (catalog : Catalog) : Ledger catalog := Vector.replicate _ {}

variable (ledger : Ledger catalog)

/-- What a statement adds to its table. -/
def gain (insert : Insert catalog) : Extent :=
  match insert.leader? with
  | some leader =>
    let rows := (ledger.get leader).total
    if insert.judged.isEmpty then {}
    else ⟨rows, if insert.judged.all fun verdict => verdict.2.isEmpty then rows else 0⟩
  | none => ⟨insert.judged.length, insert.judged.countP fun verdict => verdict.2.isEmpty⟩

def step (event : Event catalog) : Ledger catalog :=
  match event.outcome with
  | .ok insert => catalog.put ledger insert.table ((ledger.get insert.table).plus (ledger.gain insert))
  | .error _ => ledger

def run (events : List (Event catalog)) : Ledger catalog := events.foldl step ledger

/-- The rows of all tables. -/
def rows : Nat := ∑ id : catalog.Id, (ledger.get id).total

/-- No table has more complete rows than rows. -/
def Sound : Prop := ∀ id, (ledger.get id).complete ≤ (ledger.get id).total

theorem get_start (id : catalog.Id) : (start catalog).get id = {} := by
  change (Vector.replicate catalog.tables.length ({} : Extent))[id.val] = {}
  exact Vector.getElem_replicate _

theorem gain_own {insert : Insert catalog} (alone : insert.leader? = none) :
    (ledger.gain insert).total = insert.judged.length := by
  rw [gain, alone]

/-- A bulk insert adds the rows of the table that it follows, if it adds anything. -/
theorem gain_bulk_le {insert : Insert catalog} {leader : catalog.Id}
    (leads : insert.leader? = some leader) :
    (ledger.gain insert).total ≤ (ledger.get leader).total := by
  rw [gain, leads]
  dsimp only
  split
  · exact Nat.zero_le _
  · exact Nat.le_refl _

theorem gain_bounded (insert : Insert catalog) :
    (ledger.gain insert).complete ≤ (ledger.gain insert).total := by
  unfold gain
  split
  · by_cases nothing : insert.judged.isEmpty = true
    · simp [nothing]
    · simp only [nothing, Bool.false_eq_true, if_false]
      split
      · exact Nat.le_refl _
      · exact Nat.zero_le _
  · exact List.countP_le_length

theorem get_step (insert : Insert catalog) (origin : Text) (place : Nat) (id : catalog.Id) :
    (ledger.step ⟨.ok insert, origin, place⟩).get id =
      if id = insert.table then (ledger.get id).plus (ledger.gain insert) else ledger.get id := by
  refine (catalog.get_put _ _ _ _).trans ?_
  split
  · rename_i same
    rw [same]
  · rfl

theorem total_le_step (event : Event catalog) (id : catalog.Id) :
    (ledger.get id).total ≤ ((ledger.step event).get id).total := by
  obtain ⟨outcome, origin, place⟩ := event
  cases outcome with
  | error => exact Nat.le_refl _
  | ok insert =>
    rw [get_step]
    split
    · exact Nat.le_add_right _ _
    · exact Nat.le_refl _

theorem total_le_run (events : List (Event catalog)) (id : catalog.Id) :
    (ledger.get id).total ≤ ((ledger.run events).get id).total := by
  induction events generalizing ledger with
  | nil => exact Nat.le_refl _
  | cons event rest ih => exact (ledger.total_le_step event id).trans (ih (ledger.step event))

theorem total_le_rows (id : catalog.Id) : (ledger.get id).total ≤ ledger.rows :=
  Finset.single_le_sum (f := fun id => (ledger.get id).total) (fun _ _ => Nat.zero_le _)
    (Finset.mem_univ id)

variable {ledger}

theorem Sound.start : Sound (start catalog) := by
  intro id
  rw [get_start]

theorem Sound.step (sound : ledger.Sound) (event : Event catalog) : (ledger.step event).Sound := by
  obtain ⟨outcome, origin, place⟩ := event
  cases outcome with
  | error => exact sound
  | ok insert =>
    intro id
    rw [get_step]
    split
    · exact Nat.add_le_add (sound id) (ledger.gain_bounded insert)
    · exact sound id

theorem Sound.run (sound : ledger.Sound) (events : List (Event catalog)) :
    (ledger.run events).Sound := by
  induction events generalizing ledger with
  | nil => exact sound
  | cons event rest ih => exact ih (sound.step event)

end Ledger

namespace Tally

variable {tally : Tally catalog} {ledger : Ledger catalog}

/-- Every count of the tally is that of the ledger modulo the word size. -/
def Shows (tally : Tally catalog) (ledger : Ledger catalog) : Prop :=
  ∀ id, (tally.count id).Shows (ledger.get id)

theorem Shows.start (tracking : Bool) : (start catalog tracking).Shows (.start catalog) := by
  intro id
  rw [count_start, Ledger.get_start]
  exact ⟨rfl, rfl⟩

theorem Shows.gain (shown : tally.Shows ledger) (insert : Insert catalog) :
    (tally.gain insert).Shows (ledger.gain insert) := by
  unfold Tally.gain Ledger.gain
  cases insert.leader? with
  | none => exact ⟨UInt64.toNat_ofNat', UInt64.toNat_ofNat'⟩
  | some leader =>
    have rows := (shown leader).total
    by_cases nothing : insert.judged.isEmpty = true
    · simp only [nothing]
      exact ⟨rfl, rfl⟩
    · simp only [nothing]
      cases insert.judged.all fun verdict => verdict.2.isEmpty <;>
        constructor <;> simp [Count.add, rows]

theorem Shows.step (shown : tally.Shows ledger) (event : Event catalog) :
    (tally.step event).Shows (ledger.step event) := by
  obtain ⟨outcome, origin, place⟩ := event
  cases outcome with
  | error => exact shown
  | ok insert =>
    intro id
    rw [Ledger.get_step, Tally.step, Tally.foldOutcome, (tally.fold_spec insert origin place).1]
    split
    · exact (shown id).plus (shown.gain insert)
    · exact shown id

/-- A tally goes on to show its ledger, whatever overflows. -/
theorem Shows.run (shown : tally.Shows ledger) (events : List (Event catalog)) :
    (tally.run events).Shows (ledger.run events) := by
  induction events generalizing tally ledger with
  | nil => exact shown
  | cons event rest ih => exact ih (shown.step event)

end Tally
end SeedCoverage

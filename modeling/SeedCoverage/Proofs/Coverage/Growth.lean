import SeedCoverage.Proofs.Coverage.Ledger

/-! How many rows there can be. A bulk insert doubles the rows of a catalog at most, and where tables
follow each other it may come near that every time. -/
namespace SeedCoverage

open Text Sql

variable {catalog : Catalog}

namespace Event

/-- The rows that a statement lists itself. -/
def ownRows (event : Event catalog) : Nat :=
  match event.insert? with
  | some insert => if insert.leader? = none then insert.judged.length else 0
  | none => 0

/-- The statement counts the rows of another table. -/
def countsOthers (event : Event catalog) : Bool :=
  event.insert?.any fun insert => insert.leader?.isSome

variable {insert : Insert catalog} (origin : Text) (place : Nat)

theorem of_own (alone : insert.leader? = none) :
    (Event.mk (.ok insert) origin place).ownRows = insert.judged.length ∧
      (Event.mk (.ok insert) origin place).countsOthers = false := by
  simp [ownRows, countsOthers, insert?, Except.toOption, alone]

theorem of_bulk {leader : catalog.Id} (leads : insert.leader? = some leader) :
    (Event.mk (.ok insert) origin place).ownRows = 0 ∧
      (Event.mk (.ok insert) origin place).countsOthers = true := by
  simp [ownRows, countsOthers, insert?, Except.toOption, leads]

end Event

/-- The rows that statements list themselves. -/
def ownRows : List (Event catalog) → Nat
  | [] => 0
  | event :: rest => event.ownRows + ownRows rest

/-- How many statements count the rows of another table. -/
def bulkCount (events : List (Event catalog)) : Nat := events.countP Event.countsOthers

theorem bulkCount_cons (event : Event catalog) (rest : List (Event catalog)) :
    bulkCount (event :: rest) = bulkCount rest + if event.countsOthers then 1 else 0 :=
  List.countP_cons

namespace Ledger

theorem rows_step (ledger : Ledger catalog) (insert : Insert catalog) (origin : Text) (place : Nat) :
    (ledger.step ⟨.ok insert, origin, place⟩).rows = ledger.rows + (ledger.gain insert).total := by
  have each (id : catalog.Id) : ((ledger.step ⟨.ok insert, origin, place⟩).get id).total =
      (ledger.get id).total + if id = insert.table then (ledger.gain insert).total else 0 := by
    rw [get_step]
    split <;> rfl
  rw [rows, rows, Finset.sum_congr rfl fun id _ => each id, Finset.sum_add_distrib]
  simp

/-- A statement adds the rows that it lists, or else as many rows as one table has. -/
theorem rows_step_le (ledger : Ledger catalog) (event : Event catalog) :
    (ledger.step event).rows ≤ ledger.rows * (if event.countsOthers then 2 else 1) + event.ownRows := by
  obtain ⟨outcome, origin, place⟩ := event
  cases outcome with
  | error => exact Nat.le_of_eq (Nat.mul_one _).symm
  | ok insert =>
    rw [rows_step]
    cases leads : insert.leader? with
    | none =>
      obtain ⟨listed, alone⟩ := Event.of_own origin place leads
      rw [ledger.gain_own leads, listed, alone]
      simp
    | some leader =>
      obtain ⟨listed, bulk⟩ := Event.of_bulk origin place leads
      have gained := ledger.gain_bulk_le leads
      have part := ledger.total_le_rows leader
      rw [listed, bulk, if_pos rfl]
      omega

/-- All rows of a run: those that its statements list, doubled at most by every bulk insert. -/
theorem rows_run_le (ledger : Ledger catalog) (events : List (Event catalog)) :
    (ledger.run events).rows ≤ (ledger.rows + ownRows events) * 2 ^ bulkCount events := by
  induction events generalizing ledger with
  | nil => simp [run, ownRows, bulkCount]
  | cons event rest ih =>
    have here := ledger.rows_step_le event
    refine (ih (ledger.step event)).trans ?_
    rw [bulkCount_cons, ownRows]
    by_cases bulk : event.countsOthers = true
    · rw [if_pos bulk] at here ⊢
      rw [pow_succ, mul_comm _ 2, ← mul_assoc]
      exact Nat.mul_le_mul_right _ (by omega)
    · rw [if_neg bulk] at here ⊢
      exact Nat.mul_le_mul_right _ (by omega)

end Ledger
end SeedCoverage

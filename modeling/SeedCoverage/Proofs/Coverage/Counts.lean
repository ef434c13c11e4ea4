import SeedCoverage.Proofs.Coverage.Fold

/-! What folding a statement does to the figures of a tally. One table gains, by an amount that hangs
on the counts alone; where the statement stands shows in the gaps and nowhere else. -/
namespace SeedCoverage

open Text Sql

variable {catalog : Catalog}

namespace Tally

variable (tally : Tally catalog)

/-- The figures of a tally are all of it but its gaps. -/
structure Agree (left right : Tally catalog) : Prop where
  counts : ∀ id, left.count id = right.count id
  parsed : left.parsed = right.parsed
  skipped : left.skipped = right.skipped
  rejected : left.rejected = right.rejected

theorem Agree.refl : Agree tally tally := ⟨fun _ => rfl, rfl, rfl, rfl⟩

theorem Agree.symm {left right : Tally catalog} (agree : Agree left right) : Agree right left :=
  ⟨fun id => (agree.counts id).symm, agree.parsed.symm, agree.skipped.symm, agree.rejected.symm⟩

theorem Agree.trans {first second third : Tally catalog} (left : Agree first second)
    (right : Agree second third) : Agree first third :=
  ⟨fun id => (left.counts id).trans (right.counts id), left.parsed.trans right.parsed,
    left.skipped.trans right.skipped, left.rejected.trans right.rejected⟩

/-- A statement adds to the count of its table, and to what was read and rejected. -/
theorem fold_spec (insert : Insert catalog) (origin : Text) (statement : Nat) :
    (∀ id, (tally.fold insert origin statement).count id =
      if id = insert.table then (tally.count id).plus (tally.gain insert) else tally.count id) ∧
      (tally.fold insert origin statement).parsed = tally.parsed + 1 ∧
        (tally.fold insert origin statement).skipped = tally.skipped ∧
          (tally.fold insert origin statement).rejected = tally.rejected + insert.rejected := by
  rw [fold_eq_enter]
  exact ⟨(tally.opened insert).count_enter _ _ _, rfl, rfl, rfl⟩

theorem fold_values (table : catalog.Id) (columns : List Text) (rows : List Row) (rejected : Nat)
    (origin : Text) (statement : Nat) :
    let final := tally.fold ⟨table, columns, .values rows, rejected⟩ origin statement
    (∀ id, final.count id = if id = table then
        (tally.count id).plus (.ofVerdicts (verdicts (catalog.get table).required columns rows))
      else tally.count id) ∧ final.rejected = tally.rejected + rejected :=
  have folded := fold_spec tally ⟨table, columns, .values rows, rejected⟩ origin statement
  ⟨folded.1, folded.2.2.2⟩

/-- What a statement adds hangs on the counts alone. -/
theorem Agree.gain {left right : Tally catalog} (agree : Agree left right) (insert : Insert catalog) :
    left.gain insert = right.gain insert := by
  unfold Tally.gain
  split
  · rw [agree.counts]
  · rfl

theorem Agree.foldOutcome {left right : Tally catalog} (agree : Agree left right)
    (origin other : Text) (statement place : Nat) (outcome : Outcome catalog) :
    Agree (left.foldOutcome origin statement outcome) (right.foldOutcome other place outcome) := by
  cases outcome with
  | error => exact ⟨agree.counts, agree.parsed, congrArg (· + 1) agree.skipped, agree.rejected⟩
  | ok insert =>
    obtain ⟨counts, parsed, skipped, rejected⟩ := fold_spec left insert origin statement
    obtain ⟨counts', parsed', skipped', rejected'⟩ := fold_spec right insert other place
    refine ⟨fun id => ?_, ?_, ?_, ?_⟩
    · refine (counts id).trans (Eq.trans ?_ (counts' id).symm)
      rw [agree.counts, agree.gain]
    · exact parsed.trans ((congrArg (· + 1) agree.parsed).trans parsed'.symm)
    · exact skipped.trans (agree.skipped.trans skipped'.symm)
    · exact rejected.trans ((congrArg (· + insert.rejected) agree.rejected).trans rejected'.symm)

private theorem Agree.foldl_zipIdx {left right : Tally catalog} (agree : Agree left right)
    (origin other : Text) (outcomes : List (Outcome catalog)) (first start : Nat) :
    Agree
      ((outcomes.zipIdx first).foldl
        (fun tally (outcome, place) => tally.foldOutcome origin place outcome) left)
      ((outcomes.zipIdx start).foldl
        (fun tally (outcome, place) => tally.foldOutcome other place outcome) right) := by
  induction outcomes generalizing left right first start with
  | nil => exact agree
  | cons outcome rest ih => exact ih (agree.foldOutcome origin other first start outcome) _ _

theorem Agree.foldAll {left right : Tally catalog} (agree : Agree left right) (origin other : Text)
    (outcomes : List (Outcome catalog)) :
    Agree (left.foldAll origin outcomes) (right.foldAll other outcomes) :=
  agree.foldl_zipIdx origin other outcomes 1 1

/-- What is counted in one origin might as well be counted in two. -/
theorem agree_foldAll_append (whole first second : Text) (left right : List (Outcome catalog)) :
    Agree (tally.foldAll whole (left ++ right))
      ((tally.foldAll first left).foldAll second right) := by
  rw [Tally.foldAll, List.zipIdx_append, List.foldl_append]
  exact (Agree.foldl_zipIdx (.refl tally) whole first left 1 1).foldl_zipIdx whole second right _ 1

theorem Agree.rows {left right : Tally catalog} (agree : Agree left right) :
    left.rows = right.rows := by
  simp [Tally.rows, agree.counts]

/-- What statements that each count for themselves add to the count of one table. -/
def yield (inserts : List (Insert catalog)) (id : catalog.Id) : Count :=
  .ofVerdicts ((inserts.filter fun insert => insert.table = id).flatMap Insert.judged)

theorem yield_cons_same {insert : Insert catalog} {id : catalog.Id} (same : insert.table = id)
    (rest : List (Insert catalog)) :
    yield (insert :: rest) id = (Count.ofVerdicts insert.judged).plus (yield rest id) := by
  rw [yield, List.filter_cons_of_pos (by simp [same]), List.flatMap_cons, Count.ofVerdicts_append]
  rfl

theorem yield_cons_other {insert : Insert catalog} {id : catalog.Id} (other : insert.table ≠ id)
    (rest : List (Insert catalog)) : yield (insert :: rest) id = yield rest id := by
  rw [yield, List.filter_cons_of_neg (by simp [other])]
  rfl

/-- The rows that statements give up. -/
def rejectedRows : List (Insert catalog) → Nat
  | [] => 0
  | insert :: rest => insert.rejected + rejectedRows rest

private theorem foldl_own (origin : Text) {inserts : List (Insert catalog)}
    (own : ∀ insert ∈ inserts, insert.leader? = none) (first : Nat) :
    let final := ((inserts.map Except.ok).zipIdx first).foldl
      (fun tally (outcome, place) => tally.foldOutcome origin place outcome) tally
    (∀ id, final.count id = (tally.count id).plus (yield inserts id)) ∧
      final.parsed = tally.parsed + inserts.length ∧ final.skipped = tally.skipped ∧
        final.rejected = tally.rejected + rejectedRows inserts := by
  induction inserts generalizing tally first with
  | nil => exact ⟨fun id => (Count.plus_zero _).symm, rfl, rfl, rfl⟩
  | cons insert rest ih =>
    obtain ⟨counts, parsed, skipped, rejected⟩ := fold_spec tally insert origin first
    obtain ⟨counts', parsed', skipped', rejected'⟩ := ih (tally.fold insert origin first)
      (fun other member => own other (by simp [member])) (first + 1)
    have amount : tally.gain insert = .ofVerdicts insert.judged := by
      rw [gain, own insert (by simp)]
    refine ⟨fun id => (counts' id).trans ?_, ?_, skipped'.trans skipped, ?_⟩
    · rw [counts, amount]
      by_cases same : insert.table = id
      · subst same
        rw [if_pos rfl, Count.plus_assoc, yield_cons_same rfl]
      · rw [if_neg fun equal => same equal.symm, yield_cons_other same]
    · refine parsed'.trans ?_
      rw [parsed, List.length_cons]
      omega
    · refine rejected'.trans ?_
      rw [rejected, rejectedRows]
      omega

/-- Statements that read from no relation add up, whatever was counted before them. -/
theorem foldAll_own (origin : Text) {inserts : List (Insert catalog)}
    (own : ∀ insert ∈ inserts, insert.leader? = none) :
    let final := tally.foldAll origin (inserts.map Except.ok)
    (∀ id, final.count id = (tally.count id).plus (yield inserts id)) ∧
      final.parsed = tally.parsed + inserts.length ∧ final.skipped = tally.skipped ∧
        final.rejected = tally.rejected + rejectedRows inserts :=
  foldl_own tally origin own 1

theorem count_start (tracking : Bool) (id : catalog.Id) : (start catalog tracking).count id = {} := by
  change (Vector.replicate catalog.tables.length ({} : Count))[id.val] = {}
  exact Vector.getElem_replicate _

end Tally
end SeedCoverage

import SeedCoverage.Proofs.Coverage.Counts
import SeedCoverage.Proofs.Coverage.Gaps

/-! What the order of statements matters for. A bulk insert counts the rows of the table that it
follows, so it stays behind the statements that count into that table; any other two statements may
change places. -/
namespace SeedCoverage

open Text Sql

variable {catalog : Catalog}

/-- The statement is a bulk insert that counts the rows of the table of another. -/
def Sql.Insert.Follows (insert other : Insert catalog) : Prop :=
  insert.Bulk ∧ catalog.parentOf insert.table = some other.table

instance (insert other : Insert catalog) : Decidable (insert.Follows other) :=
  inferInstanceAs (Decidable (_ ∧ _))

namespace Tally

section Swap

variable (tally : Tally catalog) {first second : Insert catalog}

/-- A bulk insert finds as many rows behind a statement that it does not follow as before it. -/
private theorem count_leader_fold (alone : ¬first.Follows second) {leader : catalog.Id}
    (leads : first.leader? = some leader) (origin : Text) (statement : Nat) :
    (tally.fold second origin statement).count leader = tally.count leader := by
  obtain ⟨bulk, parent⟩ := Insert.bulk_of_leader leads
  rw [(tally.fold_spec second origin statement).1, if_neg]
  rintro rfl
  exact alone ⟨bulk, parent⟩

theorem gain_fold (alone : ¬first.Follows second) (origin : Text) (statement : Nat) :
    (tally.fold second origin statement).gain first = tally.gain first := by
  unfold gain
  split
  · rename_i leader leads
    rw [tally.count_leader_fold alone leads]
  · rfl

theorem news_fold (alone : ¬first.Follows second) (origin other : Text) (statement place : Nat) :
    (tally.fold second other place).news first origin statement = tally.news first origin statement := by
  unfold news stake
  split
  · rename_i leader leads
    rw [tally.count_leader_fold alone leads]
  · rfl

theorem fold_fold_spec (alone : ¬second.Follows first) (origin other : Text) (statement place : Nat) :
    let final := (tally.fold first origin statement).fold second other place
    (∀ id, final.count id =
      let begun := if id = first.table then (tally.count id).plus (tally.gain first) else tally.count id
      if id = second.table then begun.plus (tally.gain second) else begun) ∧
      final.parsed = tally.parsed + 2 ∧ final.skipped = tally.skipped ∧
        final.rejected = tally.rejected + (first.rejected + second.rejected) := by
  intro final
  obtain ⟨counts, parsed, skipped, rejected⟩ := tally.fold_spec first origin statement
  obtain ⟨counts', parsed', skipped', rejected'⟩ :=
    fold_spec (tally.fold first origin statement) second other place
  refine ⟨?_, ?_, skipped'.trans skipped, ?_⟩
  · intro id
    rw [counts', counts, tally.gain_fold alone]
  · rw [parsed', parsed]
  · rw [rejected', rejected, Nat.add_assoc]

theorem fold_fold_gaps (alone : ¬second.Follows first) (origin other : Text) (statement place : Nat) :
    ((tally.fold first origin statement).fold second other place).gaps =
      tally.gaps ++ if tally.tracking then
        tally.news first origin statement ++ tally.news second other place else [] := by
  obtain ⟨tracking, gaps⟩ := tally.fold_gaps first origin statement
  rw [(fold_gaps _ second other place).2, tracking, gaps, tally.news_fold alone, List.append_assoc]
  split <;> rfl

/-- Statements of which neither follows the other may change places. -/
theorem fold_swap (alone : ¬first.Follows second) (alone' : ¬second.Follows first)
    (origin other : Text) (statement place : Nat) :
    let forth := (tally.fold first origin statement).fold second other place
    let back := (tally.fold second other place).fold first origin statement
    Agree forth back ∧ forth.gaps.Perm back.gaps := by
  intro forth back
  obtain ⟨counts, parsed, skipped, rejected⟩ :=
    tally.fold_fold_spec alone' origin other statement place
  obtain ⟨counts', parsed', skipped', rejected'⟩ :=
    tally.fold_fold_spec alone other origin place statement
  constructor
  · refine ⟨?_, parsed.trans parsed'.symm, skipped.trans skipped'.symm, ?_⟩
    · intro id
      rw [counts, counts']
      by_cases same : id = first.table
      · by_cases same' : id = second.table
        · simp only [if_pos same, if_pos same', Count.plus_right_comm]
        · simp only [if_pos same, if_neg same']
      · simp only [if_neg same]
    · rw [rejected, rejected', Nat.add_comm second.rejected]
  · rw [tally.fold_fold_gaps alone', tally.fold_fold_gaps alone]
    apply List.Perm.append_left
    split
    · exact List.perm_append_comm
    · exact .refl []

theorem fold_skip (insert : Insert catalog) (origin : Text) (statement : Nat) :
    Agree (tally.fold insert origin statement).skip (tally.skip.fold insert origin statement) := by
  obtain ⟨counts, parsed, skipped, rejected⟩ := tally.fold_spec insert origin statement
  obtain ⟨counts', parsed', skipped', rejected'⟩ := tally.skip.fold_spec insert origin statement
  refine ⟨?_, parsed.trans parsed'.symm, ?_, rejected.trans rejected'.symm⟩
  · intro id
    exact (counts id).trans (counts' id).symm
  · exact (congrArg (· + 1) skipped).trans skipped'.symm

end Swap

section Run

variable {left right : Tally catalog}

theorem Agree.step (agree : Agree left right) {event other : Event catalog}
    (same : event.outcome = other.outcome) : Agree (left.step event) (right.step other) := by
  unfold Tally.step
  rw [same]
  exact agree.foldOutcome _ _ _ _ _

/-- Where statements stand is no matter for the figures. -/
theorem Agree.run (agree : Agree left right) {events others : List (Event catalog)}
    (same : events.map Event.outcome = others.map Event.outcome) :
    Agree (left.run events) (right.run others) := by
  induction events generalizing left right others with
  | nil =>
    obtain rfl := List.map_eq_nil_iff.mp same.symm
    exact agree
  | cons event rest ih =>
    cases others with
    | nil => cases same
    | cons other more =>
      obtain ⟨first, later⟩ := List.cons.inj same
      exact ih (agree.step first) later

theorem step_swap (tally : Tally catalog) {event other : Event catalog}
    (own : ∀ insert ∈ event.insert?, ¬insert.Bulk) (own' : ∀ insert ∈ other.insert?, ¬insert.Bulk) :
    Agree ((tally.step event).step other) ((tally.step other).step event) := by
  obtain ⟨outcome, origin, statement⟩ := event
  obtain ⟨outcome', origin', place⟩ := other
  cases outcome with
  | error =>
    cases outcome' with
    | error => exact .refl _
    | ok second => exact (tally.fold_skip second origin' place).symm
  | ok first =>
    cases outcome' with
    | error => exact tally.fold_skip first origin statement
    | ok second =>
      have alone : ¬first.Follows second := fun follows => own first rfl follows.1
      have alone' : ¬second.Follows first := fun follows => own' second rfl follows.1
      exact (tally.fold_swap alone alone' origin origin' statement place).1

/-- Statements that all count for themselves come to the same figures in any order. -/
theorem agree_run_perm {events others : List (Event catalog)} (perm : events.Perm others)
    (own : ∀ event ∈ events, ∀ insert ∈ event.insert?, ¬insert.Bulk) (agree : Agree left right) :
    Agree (left.run events) (right.run others) := by
  induction perm generalizing left right with
  | nil => exact agree
  | cons event perm ih =>
    exact ih (fun other member => own other (by simp [member])) (agree.step rfl)
  | swap first second rest =>
    have swapped := left.step_swap (own second (by simp)) (own first (by simp))
    exact (swapped.trans ((agree.step rfl).step rfl)).run rfl
  | trans perm _ ih ih' =>
    have own' := fun event member => own event (perm.mem_iff.mpr member)
    exact (ih own agree).trans (ih' own' (.refl right))

end Run

/-- The order of statements matters only where a bulk insert counts the rows of the table that another
one counts into. Two statements without that tie come to the same figures either way, and to the same
gaps but for their order; and where no statement is a bulk insert, none of their orders matters. -/
theorem fold_order (tally : Tally catalog) :
    (∀ (first second : Insert catalog) (origin other : Text) (statement place : Nat),
      ¬first.Follows second → ¬second.Follows first →
        let forth := (tally.fold first origin statement).fold second other place
        let back := (tally.fold second other place).fold first origin statement
        (∀ id, forth.count id = back.count id) ∧ forth.parsed = back.parsed ∧
          forth.rejected = back.rejected ∧ forth.gaps.Perm back.gaps) ∧
      ∀ left right : List (Event catalog),
        (left.map Event.outcome).Perm (right.map Event.outcome) →
          (∀ event ∈ left, ∀ insert ∈ event.insert?, ¬insert.Bulk) →
            (tally.run left).rows = (tally.run right).rows := by
  constructor
  · intro first second origin other statement place alone alone' forth back
    obtain ⟨agree, gaps⟩ := tally.fold_swap alone alone' origin other statement place
    exact ⟨agree.counts, agree.parsed, agree.rejected, gaps⟩
  · intro left right perm own
    -- The statements are permuted once they are stripped of where they stand.
    let bare (outcome : Outcome catalog) : Event catalog := ⟨outcome, [], 0⟩
    have stripped : ∀ events : List (Event catalog),
        Agree (tally.run events) (tally.run ((events.map Event.outcome).map bare)) := by
      intro events
      apply Agree.run (.refl tally)
      rw [List.map_map]
      exact (List.map_id _).symm
    have own' : ∀ event ∈ (left.map Event.outcome).map bare, ∀ insert ∈ event.insert?,
        ¬insert.Bulk := by
      intro event member
      rw [List.map_map] at member
      obtain ⟨source, present, rfl⟩ := List.mem_map.mp member
      exact own source present
    have permuted := agree_run_perm (perm.map bare) own' (.refl tally)
    exact (((stripped left).trans permuted).trans (stripped right).symm).rows

/-- Translations of all creatures there are. -/
def creatureTranslations : Insert .builtin :=
  ⟨⟨3, by decide⟩, ["name", "locale"], .select [["name", "NULL"]] "SELECT name, NULL FROM creatures",
    0⟩

def twoCreatures : Insert .builtin := ⟨⟨2, by decide⟩, ["name"], .values [["'Wolf'"], ["''"]], 0⟩

def oneLocation : Insert .builtin := ⟨⟨5, by decide⟩, ["name"], .values [["'Sea'"]], 2⟩

theorem fold_order_creatureTranslations :
    let tally := (start .builtin true).fold twoCreatures "a.sql" 1
    (¬creatureTranslations.Follows oneLocation ∧ ¬oneLocation.Follows creatureTranslations ∧
      ((tally.fold creatureTranslations "a.sql" 2).fold oneLocation "b.sql" 1).gaps.Perm
        ((tally.fold oneLocation "b.sql" 1).fold creatureTranslations "a.sql" 2).gaps) ∧
      let events : List (Event .builtin) :=
        [⟨.ok oneLocation, "b.sql", 1⟩, ⟨.ok twoCreatures, "b.sql", 2⟩]
      let others : List (Event .builtin) :=
        [⟨.ok twoCreatures, "c.sql", 1⟩, ⟨.ok oneLocation, "c.sql", 2⟩]
      (events.map Event.outcome).Perm (others.map Event.outcome) ∧
        (∀ event ∈ events, ∀ insert ∈ event.insert?, ¬insert.Bulk) ∧
          (tally.run events).rows = (tally.run others).rows := by
  intro tally
  obtain ⟨swap, permute⟩ := fold_order tally
  have alone : ¬creatureTranslations.Follows oneLocation := by decide +kernel
  have alone' : ¬oneLocation.Follows creatureTranslations := by decide +kernel
  obtain ⟨_, _, _, gaps⟩ := swap _ _ "a.sql" "b.sql" 2 1 alone alone'
  refine ⟨⟨alone, alone', gaps⟩, ?_⟩
  intro events others
  have perm : (events.map Event.outcome).Perm (others.map Event.outcome) := .swap _ _ _
  have own : ∀ event ∈ events, ∀ insert ∈ event.insert?, ¬insert.Bulk := by decide +kernel
  exact ⟨perm, own, permute events others perm own⟩

end Tally
end SeedCoverage

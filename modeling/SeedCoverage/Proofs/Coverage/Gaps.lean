import SeedCoverage.Proofs.Coverage.Fold

/-! The gaps that folding a statement leaves. They come behind those of the statements before it, one
for each row that lacks something, and all of them stand for the same number of rows. -/
namespace SeedCoverage

open Text Sql

variable {catalog : Catalog}

/-- A statement that selects from a relation, into a table that follows another. -/
def Sql.Insert.Bulk (insert : Insert catalog) : Prop :=
  (∃ body ∈ insert.source.body?, readsRelation body = true) ∧
    (catalog.get insert.table).follows ≠ none

instance (insert : Insert catalog) : Decidable insert.Bulk := inferInstanceAs (Decidable (_ ∧ _))

/-- Only a bulk insert counts the rows of another table, and those of the one that it follows. -/
theorem Sql.Insert.bulk_of_leader {insert : Insert catalog} {leader : catalog.Id}
    (leads : insert.leader? = some leader) :
    insert.Bulk ∧ catalog.parentOf insert.table = some leader := by
  unfold Insert.leader? at leads
  split at leads
  · cases leads
  · rename_i rows body source
    split at leads
    · rename_i reads
      refine ⟨⟨⟨body, ?_, reads⟩, ?_⟩, leads⟩
      · rw [source]
        rfl
      · intro alone
        rw [Catalog.parentOf, alone] at leads
        cases leads
    · cases leads

namespace Tally

variable (tally : Tally catalog)

/-- The gaps of a statement. -/
def news (insert : Insert catalog) (origin : Text) (statement : Nat) : List Gap :=
  (insert.judged.map (insert.gap origin statement (tally.stake insert))).filter Gap.tells

theorem fold_gaps (insert : Insert catalog) (origin : Text) (statement : Nat) :
    (tally.fold insert origin statement).tracking = tally.tracking ∧
      (tally.fold insert origin statement).gaps =
        tally.gaps ++ if tally.tracking then tally.news insert origin statement else [] := by
  rw [fold_eq_enter]
  exact ⟨rfl, rfl⟩

/-- Rows that stand for themselves leave one gap for each that lacks something. -/
theorem news_own {insert : Insert catalog} (alone : insert.leader? = none) (origin : Text)
    (statement : Nat) :
    tally.news insert origin statement =
      (insert.judged.filter fun verdict => !verdict.2.isEmpty).map
        (insert.gap origin statement 1) := by
  have one : tally.stake insert = 1 := by
    rw [stake, alone]
  have tells (verdict : Nat × List Text) :
      (insert.gap origin statement 1 verdict).tells = !verdict.2.isEmpty := by
    rw [Gap.tells]
    exact Bool.and_true _
  rw [news, one, List.filter_map]
  exact congrArg _ (List.filter_congr fun verdict _ => tells verdict)

/-- The gaps tell what the rows lack. -/
theorem news_fields {insert : Insert catalog} (alone : insert.leader? = none) (origin : Text)
    (statement : Nat) :
    (tally.news insert origin statement).map Gap.fields =
      (insert.judged.map Prod.snd).filter fun fields => !fields.isEmpty := by
  rw [tally.news_own alone, List.map_map, List.filter_map]
  rfl

theorem mem_news {insert : Insert catalog} {origin : Text} {statement : Nat} {gap : Gap}
    (member : gap ∈ tally.news insert origin statement) :
    gap.table = (catalog.get insert.table).name ∧ gap.tells = true ∧
      gap.fields.Sublist (catalog.get insert.table).required := by
  obtain ⟨listed, tells⟩ := List.mem_filter.mp member
  obtain ⟨verdict, judged, rfl⟩ := List.mem_map.mp listed
  refine ⟨rfl, tells, ?_⟩
  obtain ⟨row, _, rfl⟩ := List.mem_map.mp judged
  exact List.filter_sublist

end Tally

/-- A statement that is counted or passed over, and where it stands. -/
structure Event (catalog : Catalog) where
  outcome : Outcome catalog
  origin : Text
  place : Nat

/-- The statement, if it is counted. -/
def Event.insert? (event : Event catalog) : Option (Insert catalog) := event.outcome.toOption

namespace Tally

variable (tally : Tally catalog)

def step (event : Event catalog) : Tally catalog :=
  tally.foldOutcome event.origin event.place event.outcome

/-- Counts statements from anywhere, one after the other. -/
def run (events : List (Event catalog)) : Tally catalog := events.foldl step tally

end Tally
end SeedCoverage

import SeedCoverage.Proofs.Coverage.Gaps
import SeedCoverage.Proofs.Statement.Align

/-! Where the gaps of a VALUES list say that its tuples stand. They number the tuples that are as wide
as the column list, so that a gap points at its own tuple just where no tuple of another width stands
before it. -/
namespace SeedCoverage

open Text Sql

variable {catalog : Catalog} {insert : Insert catalog} {hint : Option Text} {statement : Text}

namespace Sql.Insert

variable (insert)

/-- A tuple that is as wide as the column list. -/
def fits (row : Row) : Bool := row.length == insert.columns.length

/-- What a tuple lacks. -/
def missing (row : Row) : List Text :=
  missingFields (catalog.get insert.table).required insert.columns row

/-- A tuple that is data and lacks something. -/
def lacks (row : Row) : Bool := !isArtifact row && !(insert.missing row).isEmpty

/-- The gaps of rows that come with their numbers. -/
def gapsOf (origin : Text) (place : Nat) (entries : List (Row × Nat)) : List Gap :=
  (entries.filter fun entry => insert.lacks entry.1).map fun entry =>
    insert.gap origin place 1 (entry.2, insert.missing entry.1)

/-- The tuples that are kept, each with its place among all of them. -/
def placed (tuples : List Row) (first : Nat) : List (Row × Nat) :=
  (tuples.zipIdx first).filter fun entry => insert.fits entry.1

variable {insert}

theorem gapsOf_cons (origin : Text) (place : Nat) (row : Row) (number : Nat)
    (entries : List (Row × Nat)) :
    insert.gapsOf origin place ((row, number) :: entries) =
      if insert.lacks row then
        insert.gap origin place 1 (number, insert.missing row) :: insert.gapsOf origin place entries
      else insert.gapsOf origin place entries := by
  cases lacks : insert.lacks row <;> simp [gapsOf, lacks]

/-- Tuples keep their places from any two starts on just where each that lacks something has as many
kept ones before it as makes up for the difference. -/
theorem gapsOf_zipIdx_eq_iff (origin : Text) (place : Nat) (tuples : List Row) (number first : Nat) :
    insert.gapsOf origin place ((tuples.filter insert.fits).zipIdx number) =
        insert.gapsOf origin place (insert.placed tuples first) ↔
      ∀ i, ∀ row ∈ tuples[i]?, insert.fits row = true → insert.lacks row = true →
        (tuples.take i).countP insert.fits + number = i + first := by
  induction tuples generalizing number first with
  | nil => simp [placed]
  | cons row rest ih =>
    rw [← Nat.and_forall_add_one]
    cases fits : insert.fits row with
    | false =>
      -- The numbering does not move, but the place does.
      have behind : insert.placed (row :: rest) first = insert.placed rest (first + 1) := by
        simp [placed, fits]
      rw [List.filter_cons_of_neg (by simp [fits]), behind, ih]
      simp [fits, Nat.add_assoc, Nat.add_comm 1]
    | true =>
      have behind : insert.placed (row :: rest) first =
          (row, first) :: insert.placed rest (first + 1) := by
        simp [placed, fits]
      have later (i : Nat) :
          ((row :: rest).take (i + 1)).countP insert.fits + number = i + 1 + first ↔
            (rest.take i).countP insert.fits + (number + 1) = i + (first + 1) := by
        rw [List.take_succ_cons, List.countP_cons_of_pos fits]
        omega
      rw [List.filter_cons_of_pos fits, List.zipIdx_cons, behind, gapsOf_cons, gapsOf_cons]
      simp only [later, List.getElem?_cons_succ, ← ih]
      cases lacks : insert.lacks row with
      | false => simp [lacks]
      | true => simp [fits, lacks, gap]

theorem leader?_of_listed (listed : insert.source.body? = none) : insert.leader? = none := by
  unfold leader?
  cases source : insert.source with
  | values => rfl
  | select => simp [source, Source.body?] at listed

end Sql.Insert

theorem Tally.gaps_fold_listed (tally : Tally catalog) (tracked : tally.tracking = true)
    (listed : insert.source.body? = none) (origin : Text) (place : Nat) :
    (tally.fold insert origin place).gaps =
      tally.gaps ++ insert.gapsOf origin place (insert.rows.zipIdx 1) := by
  rw [(tally.fold_gaps insert origin place).2, if_pos tracked,
    tally.news_own (Insert.leader?_of_listed listed), Insert.judged, verdicts, List.filter_map,
    List.filter_filter, List.map_map, Insert.gapsOf]
  refine congrArg (tally.gaps ++ List.map _ ·) (List.filter_congr fun entry _ => ?_)
  exact Bool.and_comm _ _

namespace Tally

/-- Folded into any tally that keeps gaps, a VALUES list leaves one gap for each tuple that is kept and
lacks something. Each has its tuple's place among all tuples just where every tuple before one of them
is as wide as the column list. -/
theorem gaps_placed_iff (read : readInsert catalog hint statement = .ok insert)
    (listed : insert.source.body? = none) :
    ∃ tuples, statementSource statement = .ok (.values tuples) ∧
      ∀ (tally : Tally catalog) (origin : Text) (place : Nat), tally.tracking = true →
        (tally.fold insert origin place).gaps =
            tally.gaps ++ insert.gapsOf origin place ((tuples.filter insert.fits).zipIdx 1) ∧
        ((tally.fold insert origin place).gaps =
            tally.gaps ++ insert.gapsOf origin place (insert.placed tuples 1) ↔
          ∀ i, ∀ row ∈ tuples[i]?, insert.fits row = true → insert.lacks row = true →
            ∀ other ∈ tuples.take i, insert.fits other = true) := by
  obtain ⟨source, found, kept, _⟩ := readInsert_ok read
  cases source with
  | select rows body => simp [kept, Source.withRows, Source.body?] at listed
  | values tuples =>
    refine ⟨tuples, found, fun tally origin place tracked => ?_⟩
    have rows : insert.rows = tuples.filter insert.fits := by
      rw [Insert.rows, kept]
      rfl
    have gaps := tally.gaps_fold_listed tracked listed origin place
    rw [rows] at gaps
    refine ⟨gaps, ?_⟩
    rw [gaps, List.append_cancel_left_eq, Insert.gapsOf_zipIdx_eq_iff]
    refine forall_congr' fun i => forall₂_congr fun row at_i => forall₂_congr fun _ _ => ?_
    have before : (tuples.take i).length = i := by
      obtain ⟨inside, _⟩ := List.getElem?_eq_some_iff.mp at_i
      exact List.length_take_of_le (Nat.le_of_lt inside)
    rw [Nat.add_right_cancel_iff, ← List.countP_eq_length, before]

/-- Three items, of which the first lacks its description and the second is too narrow. -/
def narrowBehind : Text :=
  "INSERT INTO items (name, description, rarity, icon) VALUES ('Sword', NULL, 'rare', 's.png'), " ++
    "('Axe'), ('Bow', 'long', 'rare', 'b.png');"

/-- A tuple that is too narrow does no harm behind the one that lacks something. -/
theorem gaps_placed_narrowBehind :
    ∃ (insert : Insert .builtin) (tuples : List Row),
      readInsert .builtin none narrowBehind = .ok insert ∧ insert.rejected = 1 ∧
      insert.source.body? = none ∧ statementSource narrowBehind = .ok (.values tuples) ∧
      (insert.placed tuples 1).map Prod.snd = [1, 3] ∧
      ((start .builtin true).fold insert "seed.sql" 1).gaps =
        insert.gapsOf "seed.sql" 1 (insert.placed tuples 1) := by
  have facts : (readInsert .builtin none narrowBehind).toOption.any fun insert =>
      insert.rejected = 1 ∧ insert.source.body? = none ∧
        (statementSource narrowBehind).toOption.all fun source =>
          (insert.placed source.rows 1).map Prod.snd = [1, 3] ∧
          ∀ entry ∈ source.rows.zipIdx, insert.fits entry.1 = true → insert.lacks entry.1 = true →
            ∀ other ∈ source.rows.take entry.2, insert.fits other = true := by
    decide +kernel
  obtain ⟨insert, read, facts⟩ := exists_ok facts
  obtain ⟨one, listed, facts⟩ := of_decide_eq_true facts
  obtain ⟨tuples, found, placed⟩ := gaps_placed_iff read listed
  rw [found] at facts
  obtain ⟨places, even⟩ := of_decide_eq_true facts
  obtain ⟨_, told⟩ := placed (start .builtin true) "seed.sql" 1 rfl
  have gaps := told.mpr fun i row at_i =>
    even (row, i) (List.mk_mem_zipIdx_iff_getElem?.mpr at_i)
  exact ⟨insert, tuples, read, one, listed, found, places, gaps⟩

/-- Two items, of which the first is too narrow and the second lacks its description. -/
def narrowAhead : Text :=
  "INSERT INTO items (name, description, rarity, icon) VALUES ('Axe'), ('Sword', NULL, 'rare', 'x');"

/-- Behind a tuple that is too narrow, a gap points at that one, which lacks other fields. -/
theorem gaps_misplaced_narrowAhead :
    ∃ (insert : Insert .builtin) (narrow wide : Row) (gap : Gap),
      readInsert .builtin none narrowAhead = .ok insert ∧
      insert.source.body? = none ∧ statementSource narrowAhead = .ok (.values [narrow, wide]) ∧
      ((start .builtin true).fold insert "seed.sql" 1).gaps = [gap] ∧
      gap.row = 1 ∧ gap.fields = insert.missing wide ∧ gap.fields ≠ insert.missing narrow := by
  have source : (statementSource narrowAhead).toOption.any fun source =>
      source = .values [["'Axe'"], ["'Sword'", "NULL", "'rare'", "'x'"]] := by
    decide +kernel
  have facts : (readInsert .builtin none narrowAhead).toOption.any fun insert =>
      insert.source.body? = none ∧
        ((start .builtin true).fold insert "seed.sql" 1).gaps =
          [⟨"items", "seed.sql", 1, 1, 1, ["description"]⟩] ∧
        insert.missing ["'Sword'", "NULL", "'rare'", "'x'"] = [("description" : Text)] ∧
        insert.missing ["'Axe'"] = [("description" : Text), "rarity", "icon"] := by
    decide +kernel
  obtain ⟨_, found, tuples⟩ := exists_ok source
  obtain ⟨insert, read, facts⟩ := exists_ok facts
  obtain ⟨listed, gaps, wide, narrow⟩ := of_decide_eq_true facts
  rw [of_decide_eq_true tuples] at found
  refine ⟨insert, _, _, _, read, listed, found, gaps, rfl, wide.symm, ?_⟩
  rw [narrow]
  decide +kernel

end Tally

end SeedCoverage

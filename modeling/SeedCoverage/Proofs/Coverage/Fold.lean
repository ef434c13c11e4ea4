import SeedCoverage.Coverage.Tally

/-! What folding a statement does to a tally. It raises the count of one table and puts gaps behind
those that there are, whether its rows are counted one by one or all at once. -/
namespace SeedCoverage

open Text Sql

variable {catalog : Catalog}

theorem Catalog.get_put {α : Type} (values : catalog.PerTable α) (id other : catalog.Id) (value : α) :
    (catalog.put values id value).get other = if other = id then value else values.get other := by
  change (values.set id.val value id.isLt)[other.val] = _
  rw [Vector.getElem_set]
  simp only [Fin.ext_iff, eq_comm]
  rfl

theorem Catalog.put_get {α : Type} (values : catalog.PerTable α) (id : catalog.Id) :
    catalog.put values id (values.get id) = values :=
  Vector.set_getElem_self id.isLt

theorem Catalog.put_put {α : Type} (values : catalog.PerTable α) (id : catalog.Id) (first second : α) :
    catalog.put (catalog.put values id first) id second = catalog.put values id second := by
  unfold put
  exact Vector.set_set ..

/-- The sum of two counts. -/
def Count.plus (count more : Count) : Count :=
  ⟨count.total + more.total, count.complete + more.complete⟩

/-- The count of rows that each stand for themselves. -/
def Count.ofVerdicts (judged : List (Nat × List Text)) : Count :=
  ⟨.ofNat judged.length, .ofNat (judged.countP fun verdict => verdict.2.isEmpty)⟩

theorem Count.plus_zero (count : Count) : count.plus {} = count := by simp [Count.plus]

theorem Count.zero_plus (count : Count) : Count.plus {} count = count := by simp [Count.plus]

theorem Count.plus_assoc (count more rest : Count) :
    (count.plus more).plus rest = count.plus (more.plus rest) := by
  simp [Count.plus, UInt64.add_assoc]

theorem Count.plus_comm (count more : Count) : count.plus more = more.plus count := by
  simp [Count.plus, UInt64.add_comm]

theorem Count.plus_right_comm (count more other : Count) :
    (count.plus more).plus other = (count.plus other).plus more := by
  rw [plus_assoc, plus_comm more other, plus_assoc]

theorem Count.plus_inj {count more other : Count} :
    count.plus more = count.plus other ↔ more = other := by
  rcases more with ⟨total, complete⟩
  rcases other with ⟨total', complete'⟩
  simp [Count.plus]

theorem Count.add_eq_plus (count : Count) (rows : UInt64) (complete : Bool) :
    count.add rows complete = count.plus (Count.add {} rows complete) := by
  cases complete <;> simp [Count.add, Count.plus]

theorem Count.ofVerdicts_cons (verdict : Nat × List Text) (judged : List (Nat × List Text)) :
    Count.ofVerdicts (verdict :: judged) =
      (Count.add {} 1 verdict.2.isEmpty).plus (Count.ofVerdicts judged) := by
  cases complete : verdict.2.isEmpty <;>
    simp [Count.ofVerdicts, Count.add, Count.plus, complete, UInt64.ofNat_add, UInt64.add_comm]

theorem Count.ofVerdicts_append (judged more : List (Nat × List Text)) :
    Count.ofVerdicts (judged ++ more) = (Count.ofVerdicts judged).plus (Count.ofVerdicts more) := by
  simp [Count.ofVerdicts, Count.plus, UInt64.ofNat_add]

/-- Verdicts count by what is missing, wherever the rows stand. -/
theorem Count.ofVerdicts_fields (judged : List (Nat × List Text)) :
    Count.ofVerdicts judged =
      ⟨.ofNat (judged.map Prod.snd).length, .ofNat ((judged.map Prod.snd).countP List.isEmpty)⟩ := by
  rw [List.length_map, List.countP_map]
  rfl

/-- A gap says something: a field is missing, and from some row. -/
def Gap.tells (gap : Gap) : Bool := !gap.fields.isEmpty && gap.multiplicity != 0

/-- What is found of each row of a statement that is data. -/
def Sql.Insert.judged (insert : Insert catalog) : List (Nat × List Text) :=
  verdicts (catalog.get insert.table).required insert.columns insert.rows

/-- What a verdict is kept as: where its row stands, and how many `rows` it is for. -/
def Sql.Insert.gap (insert : Insert catalog) (origin : Text) (statement : Nat) (rows : UInt64)
    (verdict : Nat × List Text) : Gap :=
  ⟨(catalog.get insert.table).name, origin, statement, verdict.1, rows, verdict.2⟩

namespace Tally

variable (tally : Tally catalog)

/-- What a statement adds to the count of its table. -/
def gain (insert : Insert catalog) : Count :=
  match insert.leader? with
  | some leader =>
    if insert.judged.isEmpty then {}
    else Count.add {} (tally.count leader).total (insert.judged.all fun verdict => verdict.2.isEmpty)
  | none => .ofVerdicts insert.judged

/-- How many rows each verdict on a statement is for. -/
def stake (insert : Insert catalog) : UInt64 :=
  match insert.leader? with
  | some leader => (tally.count leader).total
  | none => 1

/-- A statement that is read, before any of its rows is counted. -/
def opened (insert : Insert catalog) : Tally catalog :=
  { tally with parsed := tally.parsed + 1, rejected := tally.rejected + insert.rejected }

/-- Those of the gaps that are kept. -/
def kept (gaps : List Gap) : List Gap := if tally.tracking then gaps.filter Gap.tells else []

theorem kept_append (gaps later : List Gap) :
    tally.kept (gaps ++ later) = tally.kept gaps ++ tally.kept later := by
  unfold kept
  split
  · exact List.filter_append gaps later
  · rfl

/-- Raises the count of a table, and puts gaps behind the others. -/
def enter (table : catalog.Id) (count : Count) (gaps : List Gap) : Tally catalog :=
  { tally with
    counts := catalog.put tally.counts table ((tally.count table).plus count)
    gaps := tally.gaps ++ tally.kept gaps }

section Enter

variable (table : catalog.Id)

theorem count_enter (count : Count) (gaps : List Gap) (id : catalog.Id) :
    (tally.enter table count gaps).count id =
      if id = table then (tally.count id).plus count else tally.count id := by
  refine (catalog.get_put _ _ _ _).trans ?_
  split
  · subst id
    rfl
  · rfl

theorem enter_gaps (gaps : List Gap) :
    tally.enter table {} gaps = { tally with gaps := tally.gaps ++ tally.kept gaps } := by
  have same : catalog.put tally.counts table (tally.count table) = tally.counts :=
    catalog.put_get tally.counts table
  rw [enter, Count.plus_zero, same]

theorem enter_nothing : tally.enter table {} [] = tally := by
  have none : tally.gaps ++ tally.kept [] = tally.gaps := by simp [kept]
  rw [enter_gaps, none]

theorem enter_enter (count more : Count) (gaps later : List Gap) :
    (tally.enter table count gaps).enter table more later =
      tally.enter table (count.plus more) (gaps ++ later) := by
  have raised : (tally.enter table count gaps).count table = (tally.count table).plus count := by
    rw [count_enter, if_pos rfl]
  have behind : (tally.enter table count gaps).kept later = tally.kept later := rfl
  rw [enter, raised, behind]
  simp only [enter, Catalog.put_put, Count.plus_assoc, List.append_assoc, kept_append]

theorem add_eq_enter (rows : UInt64) (complete : Bool) :
    tally.add table rows complete = tally.enter table (Count.add {} rows complete) [] := by
  have none : tally.gaps ++ tally.kept [] = tally.gaps := by simp [kept]
  rw [add, enter, Count.add_eq_plus, none]

theorem note_eq_enter (gap : Gap) : tally.note gap = tally.enter table {} [gap] := by
  have noted : tally.note gap =
      if (tally.tracking && gap.tells) = true then { tally with gaps := tally.gaps ++ [gap] }
      else tally := by
    rw [Gap.tells, ← Bool.and_assoc]
    rfl
  by_cases stays : (tally.tracking && gap.tells) = true
  · have one : tally.kept [gap] = [gap] := by
      obtain ⟨tracking, tells⟩ := Bool.and_eq_true_iff.mp stays
      rw [kept, if_pos tracking, List.filter_cons_of_pos tells, List.filter_nil]
    rw [noted, if_pos stays, enter_gaps, one]
  · have none : tally.kept [gap] = tally.kept [] := by
      unfold kept
      split
      · rename_i tracking
        exact List.filter_cons_of_neg fun tells => stays (Bool.and_eq_true_iff.mpr ⟨tracking, tells⟩)
      · rfl
    rw [noted, if_neg stays, enter_gaps, none, ← tally.enter_gaps table, enter_nothing]

theorem foldl_note_eq_enter (gaps : List Gap) :
    gaps.foldl note tally = tally.enter table {} gaps := by
  induction gaps generalizing tally with
  | nil => exact (tally.enter_nothing table).symm
  | cons gap rest ih =>
    rw [List.foldl_cons, ih, tally.note_eq_enter table gap, enter_enter, Count.plus_zero,
      List.singleton_append]

theorem foldl_add_eq_enter (gap : Nat × List Text → Gap) (judged : List (Nat × List Text)) :
    judged.foldl (fun tally verdict => (tally.add table 1 verdict.2.isEmpty).note (gap verdict))
        tally =
      tally.enter table (.ofVerdicts judged) (judged.map gap) := by
  induction judged generalizing tally with
  | nil => exact (tally.enter_nothing table).symm
  | cons verdict rest ih =>
    rw [List.foldl_cons, ih, note_eq_enter _ table, add_eq_enter, enter_enter, enter_enter,
      Count.zero_plus, ← Count.ofVerdicts_cons]
    rfl

end Enter

section Fold

variable {insert : Insert catalog} (origin : Text) (statement : Nat)

theorem fold_empty (nothing : insert.judged = []) :
    tally.fold insert origin statement = tally.opened insert :=
  if_pos (List.isEmpty_iff.mpr nothing)

/-- A statement that leads its own count is counted verdict by verdict. -/
theorem fold_own (alone : insert.leader? = none) (something : insert.judged ≠ []) :
    tally.fold insert origin statement = insert.judged.foldl (fun tally verdict =>
      (tally.add insert.table 1 verdict.2.isEmpty).note (insert.gap origin statement 1 verdict))
      (tally.opened insert) := by
  refine (if_neg fun empty => something (List.isEmpty_iff.mp empty)).trans ?_
  rw [alone]
  rfl

/-- A statement that follows another table is counted once, for all the rows there are. -/
theorem fold_bulk {leader : catalog.Id} (leads : insert.leader? = some leader)
    (something : insert.judged ≠ []) :
    tally.fold insert origin statement =
      (insert.judged.map (insert.gap origin statement (tally.count leader).total)).foldl note
        ((tally.opened insert).add insert.table (tally.count leader).total
          (insert.judged.all fun verdict => verdict.2.isEmpty)) := by
  refine (if_neg fun empty => something (List.isEmpty_iff.mp empty)).trans ?_
  rw [leads]
  rfl

/-- A statement is read, and what is found of its rows is entered into its table. -/
theorem fold_eq_enter (insert : Insert catalog) (origin : Text) (statement : Nat) :
    tally.fold insert origin statement =
      (tally.opened insert).enter insert.table (tally.gain insert)
        (insert.judged.map (insert.gap origin statement (tally.stake insert))) := by
  by_cases nothing : insert.judged = []
  · have none : tally.gain insert = {} := by
      unfold gain
      split <;> simp [nothing, Count.ofVerdicts]
    rw [tally.fold_empty origin statement nothing, none, nothing, List.map_nil, enter_nothing]
  · cases leads : insert.leader? with
    | none =>
      have gained : tally.gain insert = .ofVerdicts insert.judged := by
        rw [gain, leads]
      have one : tally.stake insert = 1 := by
        rw [stake, leads]
      rw [tally.fold_own origin statement leads nothing, gained, one, foldl_add_eq_enter]
    | some leader =>
      have gained : tally.gain insert = Count.add {} (tally.count leader).total
          (insert.judged.all fun verdict => verdict.2.isEmpty) := by
        rw [gain, leads]
        exact if_neg fun empty => nothing (List.isEmpty_iff.mp empty)
      have all : tally.stake insert = (tally.count leader).total := by
        rw [stake, leads]
      rw [tally.fold_bulk origin statement leads nothing, foldl_note_eq_enter _ insert.table,
        add_eq_enter, enter_enter, Count.plus_zero, List.nil_append, gained, all]

end Fold

end Tally
end SeedCoverage

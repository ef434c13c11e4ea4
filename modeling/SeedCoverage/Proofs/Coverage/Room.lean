import SeedCoverage.Proofs.Coverage.Growth

/-! Where counts overflow. No addition of a run or of its report goes beyond a word just where all rows
of the ledger together fit into one; then no table has more complete rows than rows. -/
namespace SeedCoverage

open Text Sql

variable {catalog : Catalog}

namespace Count

/-- None of the sums that arise when `more` is added count by count goes beyond a word. -/
def Room (count : Count) : List Count → Prop
  | [] => True
  | first :: rest =>
    (count.total.toNat + first.total.toNat < UInt64.size ∧
      count.complete.toNat + first.complete.toNat < UInt64.size) ∧ (count.plus first).Room rest

instance decidableRoom (count : Count) : (more : List Count) → Decidable (count.Room more)
  | [] => inferInstanceAs (Decidable True)
  | first :: rest =>
    have := decidableRoom (count.plus first) rest
    inferInstanceAs (Decidable (_ ∧ _))

theorem toNat_plus {count more : Count}
    (total : count.total.toNat + more.total.toNat < UInt64.size)
    (complete : count.complete.toNat + more.complete.toNat < UInt64.size) :
    (count.plus more).total.toNat = count.total.toNat + more.total.toNat ∧
      (count.plus more).complete.toNat = count.complete.toNat + more.complete.toNat := by
  constructor
  · exact (UInt64.toNat_add ..).trans (Nat.mod_eq_of_lt total)
  · exact (UInt64.toNat_add ..).trans (Nat.mod_eq_of_lt complete)

/-- There is room for complete rows where there is room for all. -/
theorem room_iff {count : Count} {more : List Count}
    (bounded : count.complete.toNat ≤ count.total.toNat)
    (each : ∀ other ∈ more, other.complete.toNat ≤ other.total.toNat) :
    count.Room more ↔
      count.total.toNat + (more.map fun other => other.total.toNat).sum < UInt64.size := by
  induction more generalizing count with
  | nil =>
    have word := count.total.toNat_lt_size
    simpa [Room] using word
  | cons first rest ih =>
    have bounded' := each first List.mem_cons_self
    have later := fun other member => each other (List.mem_cons_of_mem first member)
    rw [Room, List.map_cons, List.sum_cons]
    constructor
    · rintro ⟨⟨total, complete⟩, room⟩
      obtain ⟨whole, part⟩ := toNat_plus total complete
      have sum := (ih (by omega) later).mp room
      omega
    · intro sum
      have total : count.total.toNat + first.total.toNat < UInt64.size := by omega
      have complete : count.complete.toNat + first.complete.toNat < UInt64.size := by omega
      obtain ⟨whole, part⟩ := toNat_plus total complete
      refine ⟨⟨total, complete⟩, (ih (by omega) later).mpr ?_⟩
      omega

theorem toNat_foldl_plus {count : Count} {more : List Count} (room : count.Room more) :
    (more.foldl plus count).total.toNat =
        count.total.toNat + (more.map fun other => other.total.toNat).sum ∧
      (more.foldl plus count).complete.toNat =
        count.complete.toNat + (more.map fun other => other.complete.toNat).sum := by
  induction more generalizing count with
  | nil => exact ⟨rfl, rfl⟩
  | cons first rest ih =>
    obtain ⟨⟨total, complete⟩, room⟩ := room
    obtain ⟨whole, part⟩ := toNat_plus total complete
    obtain ⟨total', complete'⟩ := ih room
    rw [List.foldl_cons, total', complete', whole, part]
    simp [Nat.add_assoc]

end Count

namespace Tally

variable (tally : Tally catalog)

/-- What a statement adds to the count of its table, addition by addition. -/
def additions (insert : Insert catalog) : List Count :=
  match insert.leader? with
  | some leader =>
    if insert.judged.isEmpty then []
    else [.add {} (tally.count leader).total (insert.judged.all fun verdict => verdict.2.isEmpty)]
  | none => insert.judged.map fun verdict => .add {} 1 verdict.2.isEmpty

/-- None of the additions of a run overflows. -/
def RunRoom (tally : Tally catalog) : List (Event catalog) → Prop
  | [] => True
  | event :: rest =>
    (∀ insert ∈ event.insert?, (tally.count insert.table).Room (tally.additions insert)) ∧
      (tally.step event).RunRoom rest

instance decidableRunRoom (tally : Tally catalog) :
    (events : List (Event catalog)) → Decidable (tally.RunRoom events)
  | [] => inferInstanceAs (Decidable True)
  | event :: rest =>
    have := decidableRunRoom (tally.step event) rest
    inferInstanceAs (Decidable ((∀ insert ∈ event.insert?, _) ∧ _))

private theorem foldl_ofVerdicts (count : Count) (judged : List (Nat × List Text)) :
    (judged.map fun verdict => Count.add {} 1 verdict.2.isEmpty).foldl Count.plus count =
      count.plus (.ofVerdicts judged) := by
  induction judged generalizing count with
  | nil => exact count.plus_zero.symm
  | cons verdict rest ih =>
    rw [List.map_cons, List.foldl_cons, ih, Count.plus_assoc, ← Count.ofVerdicts_cons]

/-- The additions of a statement make up its gain. -/
theorem foldl_additions (insert : Insert catalog) (count : Count) :
    (tally.additions insert).foldl Count.plus count = count.plus (tally.gain insert) := by
  unfold additions gain
  cases insert.leader? with
  | none => exact foldl_ofVerdicts count insert.judged
  | some leader =>
    by_cases nothing : insert.judged.isEmpty = true
    · simp only [nothing]
      exact count.plus_zero.symm
    · simp only [nothing]
      rfl

theorem count_fold_additions (insert : Insert catalog) (origin : Text) (statement : Nat) :
    (tally.fold insert origin statement).count insert.table =
      (tally.additions insert).foldl Count.plus (tally.count insert.table) := by
  rw [(tally.fold_spec insert origin statement).1, if_pos rfl, foldl_additions]

/-- None of them adds more complete rows than rows. -/
theorem additions_bounded (insert : Insert catalog) :
    ∀ more ∈ tally.additions insert, more.complete.toNat ≤ more.total.toNat := by
  have part (rows : UInt64) (complete : Bool) :
      (Count.add {} rows complete).complete.toNat ≤ (Count.add {} rows complete).total.toNat := by
    cases complete <;> simp [Count.add]
  intro more member
  unfold additions at member
  split at member
  · split at member
    · cases member
    · obtain rfl := List.mem_singleton.mp member
      exact part _ _
  · obtain ⟨verdict, _, rfl⟩ := List.mem_map.mp member
    exact part _ _

variable {tally} {ledger : Ledger catalog}

section Room

variable (shown : tally.Shows ledger) (sound : ledger.Sound)
include shown sound

/-- As long as the ledger fits into words, the additions of a statement make up what it gains. -/
theorem Shows.additions_total (fits : ∀ id, (ledger.get id).total < UInt64.size)
    (insert : Insert catalog) :
    ((tally.additions insert).map fun more => more.total.toNat).sum = (ledger.gain insert).total := by
  unfold additions Ledger.gain
  cases insert.leader? with
  | none => simp [Count.add, Function.comp_def]
  | some leader =>
    by_cases nothing : insert.judged.isEmpty = true
    · simp [nothing]
    · obtain ⟨rows, _⟩ := (shown leader).exact (sound leader) (fits leader)
      simp [nothing, Count.add, rows]

/-- A statement overflows nothing just where its table has room for what the ledger gains. -/
theorem Shows.room_iff (fits : ∀ id, (ledger.get id).total < UInt64.size) (insert : Insert catalog) :
    (tally.count insert.table).Room (tally.additions insert) ↔
      (ledger.get insert.table).total + (ledger.gain insert).total < UInt64.size := by
  have figures (id : catalog.Id) := (shown id).exact (sound id) (fits id)
  have bounded : (tally.count insert.table).complete.toNat ≤ (tally.count insert.table).total.toNat := by
    rw [(figures _).1, (figures _).2]
    exact sound _
  rw [Count.room_iff bounded (tally.additions_bounded insert), shown.additions_total sound fits,
    (figures _).1]

/-- A run overflows nothing just where every table of the ledger fits into a word in the end. -/
theorem Shows.runRoom_iff (fits : ∀ id, (ledger.get id).total < UInt64.size)
    (events : List (Event catalog)) :
    tally.RunRoom events ↔ ∀ id, ((ledger.run events).get id).total < UInt64.size := by
  induction events generalizing tally ledger with
  | nil => exact ⟨fun _ => fits, fun _ => trivial⟩
  | cons event rest ih =>
    have shown' := shown.step event
    have sound' := sound.step event
    obtain ⟨outcome, origin, place⟩ := event
    cases outcome with
    | error =>
      rw [RunRoom, ih shown' sound' fits]
      exact and_iff_right fun insert none => nomatch none
    | ok insert =>
      have room := shown.room_iff sound fits insert
      constructor
      · rintro ⟨here, later⟩
        refine (ih shown' sound' ?_).mp later
        intro id
        rw [Ledger.get_step]
        split
        · rename_i same
          subst same
          exact room.mp (here insert rfl)
        · exact fits id
      · intro final
        have next : ∀ id, ((ledger.step ⟨.ok insert, origin, place⟩).get id).total < UInt64.size :=
          fun id => Nat.lt_of_le_of_lt (Ledger.total_le_run _ rest id) (final id)
        refine ⟨?_, (ih shown' sound' next).mpr final⟩
        rintro _ ⟨⟩
        have own := next insert.table
        rw [Ledger.get_step, if_pos rfl] at own
        exact room.mpr own

end Room

theorem rows_counts (tally : Tally catalog) :
    tally.rows.map TableCount.count = catalog.ids.map tally.count := by
  rw [rows, List.map_map]
  rfl

theorem sum_counts (tally : Tally catalog) (part : Count → Nat) :
    ((tally.rows.map TableCount.count).map part).sum = ∑ id, part (tally.count id) := by
  rw [rows_counts, List.map_map, Fin.sum_univ_def]
  rfl

/-- The report of a tally that shows a ledger overflows nothing just where all rows of the ledger
together fit into a word. -/
theorem Shows.report_room_iff (shown : tally.Shows ledger) (sound : ledger.Sound)
    (fits : ∀ id, (ledger.get id).total < UInt64.size) :
    Count.Room {} (tally.rows.map TableCount.count) ↔ ledger.rows < UInt64.size := by
  have figures (id : catalog.Id) := (shown id).exact (sound id) (fits id)
  have each : ∀ count ∈ tally.rows.map TableCount.count, count.complete.toNat ≤ count.total.toNat := by
    intro count member
    rw [rows_counts] at member
    obtain ⟨id, _, rfl⟩ := List.mem_map.mp member
    rw [(figures id).1, (figures id).2]
    exact sound id
  rw [Count.room_iff (Nat.le_refl _) each, sum_counts, Ledger.rows]
  simp [figures]

/-- Counts are exact modulo the word size. No addition of a run or of its report overflows just where
all rows that there are fit into a word; then no table has more complete rows than rows, and the report
has the sums of the tables. The rows that there are come to those that the statements list, doubled at
most by every bulk insert. -/
theorem counters_hold_iff (tracking : Bool) (events : List (Event catalog)) :
    let final := (start catalog tracking).run events
    let ledger := (Ledger.start catalog).run events
    final.Shows ledger ∧
      ((start catalog tracking).RunRoom events ∧
          Count.Room {} (final.report.rows.map TableCount.count) ↔ ledger.rows < UInt64.size) ∧
      (ledger.rows < UInt64.size →
        (∀ id, (final.count id).complete ≤ (final.count id).total) ∧
          final.report.count.total.toNat = ∑ id, (final.count id).total.toNat ∧
            final.report.count.complete.toNat = ∑ id, (final.count id).complete.toNat) ∧
      ledger.rows ≤ ownRows events * 2 ^ bulkCount events := by
  intro final ledger
  have shown : final.Shows ledger := (Shows.start tracking).run events
  have sound : ledger.Sound := Ledger.Sound.start.run events
  have begun : ∀ id, ((Ledger.start catalog).get id).total < UInt64.size := by
    intro id
    rw [Ledger.get_start]
    decide
  have counted := (Shows.start tracking).runRoom_iff Ledger.Sound.start begun events
  have each (small : ledger.rows < UInt64.size) (id : catalog.Id) :
      (ledger.get id).total < UInt64.size := Nat.lt_of_le_of_lt (ledger.total_le_rows id) small
  refine ⟨shown, ?_, ?_, ?_⟩
  · constructor
    · rintro ⟨room, sums⟩
      exact (shown.report_room_iff sound (counted.mp room)).mp sums
    · intro small
      exact ⟨counted.mpr (each small), (shown.report_room_iff sound (each small)).mpr small⟩
  · intro small
    have room := (shown.report_room_iff sound (each small)).mpr small
    obtain ⟨total, complete⟩ := Count.toNat_foldl_plus room
    rw [sum_counts] at total complete
    refine ⟨?_, ?_, ?_⟩
    · intro id
      obtain ⟨whole, part⟩ := (shown id).exact (sound id) (each small id)
      rw [UInt64.le_iff_toNat_le, whole, part]
      exact sound id
    · exact total.trans (Nat.zero_add _)
    · exact complete.trans (Nat.zero_add _)
  · have bound := (Ledger.start catalog).rows_run_le events
    have none : (Ledger.start catalog).rows = 0 := by simp [Ledger.rows, Ledger.get_start]
    rwa [none, Nat.zero_add] at bound

/-- Two items, and their translations inserted twice. -/
def translatedTwice : List (Event .builtin) :=
  let event (text : Text) (place : Nat) : Event .builtin :=
    ⟨readInsert .builtin none text, "seed.sql", place⟩
  [event "INSERT INTO items (name) VALUES ('Sword'), ('Shield');" 1,
    event "INSERT INTO item_translations (locale) SELECT 'en' FROM items;" 2,
    event "INSERT INTO item_translations (locale) SELECT 'de' FROM items;" 3]

theorem translatedTwice_hold :
    ((Ledger.start .builtin).run translatedTwice).rows < UInt64.size ∧
      (start .builtin false).RunRoom translatedTwice ∧
        ((start .builtin false).run translatedTwice).report.count.total.toNat = 6 := by
  obtain ⟨_, room, sums, bound⟩ := counters_hold_iff false translatedTwice
  have few : ownRows translatedTwice * 2 ^ bulkCount translatedTwice < UInt64.size := by
    decide +kernel
  have small := Nat.lt_of_le_of_lt bound few
  obtain ⟨_, total, _⟩ := sums small
  exact ⟨small, (room.mpr small).1, total.trans (by decide +kernel)⟩

/-- Kits and parts, of which either follow the other. -/
def circular : Catalog :=
  ⟨[⟨"Kits", "kits", ["title"], some "parts"⟩, ⟨"Parts", "parts", ["title"], some "kits"⟩],
    by decide +kernel⟩

/-- One kit, then by turns as many parts as there are kits and as many kits as there are parts, and
parts without a title at last. -/
def circularRun : List (Event circular) :=
  let seed : Text := "INSERT INTO kits (title) VALUES ('Drill');"
  let parts : Text := "INSERT INTO parts (title) SELECT title FROM kits;"
  let kits : Text := "INSERT INTO kits (title) SELECT title FROM parts;"
  let untitled : Text := "INSERT INTO parts (title) SELECT NULL FROM kits;"
  let script := seed :: (List.replicate 46 [parts, kits]).flatten ++ [untitled]
  (script.zipIdx 1).map fun (text, place) => ⟨readInsert circular none text, "seed.sql", place⟩

/-- Ninety-three bulk inserts are enough for a table to have more complete rows than rows. -/
theorem circularRun_overflows :
    ¬(start circular false).RunRoom circularRun ∧
      (((start circular false).run circularRun).count ⟨1, by decide⟩).total <
        (((start circular false).run circularRun).count ⟨1, by decide⟩).complete := by
  decide +kernel

end Tally
end SeedCoverage

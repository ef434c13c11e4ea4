import SeedCoverage.Proofs.Catalog.Lookup
import SeedCoverage.Proofs.Coverage.Counts
import SeedCoverage.Proofs.Coverage.Gaps

/-! What the gaps tell of the counts. As long as no count overflows, the gaps of a table are for its
rows that are not complete; only a bulk insert that lacks something in several clauses shows its rows
once for each of them. -/
namespace SeedCoverage

open Text Sql

variable {catalog : Catalog}

/-- The rows of one table, those of them that are complete, and the rows that its gaps are for. -/
structure Balance where
  total : Nat
  complete : Nat
  noted : Nat

namespace Balance

def plus (balance more : Balance) : Balance :=
  ⟨balance.total + more.total, balance.complete + more.complete, balance.noted + more.noted⟩

/-- The gaps are for all rows that are not complete, and there are none without such a row. -/
structure Sound (balance : Balance) : Prop where
  bounded : balance.complete ≤ balance.total
  covered : balance.total ≤ balance.complete + balance.noted
  shown : balance.noted ≠ 0 → balance.complete < balance.total

/-- The gaps are for the rows that are not complete and no others. -/
def Exact (balance : Balance) : Prop := balance.total = balance.complete + balance.noted

variable {balance more : Balance}

theorem Sound.plus (sound : balance.Sound) (sound' : more.Sound) : (balance.plus more).Sound := by
  obtain ⟨bounded, covered, shown⟩ := sound
  obtain ⟨bounded', covered', shown'⟩ := sound'
  constructor
  · exact Nat.add_le_add bounded bounded'
  · simp only [Balance.plus]
    omega
  · simp only [Balance.plus]
    omega

theorem Exact.sound (exact : balance.Exact) : balance.Sound := by
  unfold Exact at exact
  constructor <;> omega

theorem Exact.plus (exact : balance.Exact) (exact' : more.Exact) : (balance.plus more).Exact := by
  simp only [Exact, Balance.plus] at *
  omega

end Balance

private theorem one_le_of_ne_zero {rows : UInt64} (some : rows ≠ 0) : 1 ≤ rows :=
  UInt64.le_iff_toNat_le.mpr (Nat.pos_of_ne_zero fun none => some (UInt64.toNat_inj.mp none))

/-- The rows that gaps of one table are for. -/
def notedRows (table : Text) : List Gap → Nat
  | [] => 0
  | gap :: rest => (if gap.table = table then gap.multiplicity.toNat else 0) + notedRows table rest

theorem notedRows_append (table : Text) (gaps more : List Gap) :
    notedRows table (gaps ++ more) = notedRows table gaps + notedRows table more := by
  induction gaps with
  | nil => exact (Nat.zero_add _).symm
  | cons gap rest ih => rw [List.cons_append, notedRows, notedRows, ih, Nat.add_assoc]

theorem notedRows_pos_iff {table : Text} {gaps : List Gap} (some : ∀ gap ∈ gaps, 1 ≤ gap.multiplicity) :
    0 < notedRows table gaps ↔ ∃ gap ∈ gaps, gap.table = table := by
  induction gaps with
  | nil => simp [notedRows]
  | cons gap rest ih =>
    have row : 1 ≤ gap.multiplicity.toNat := UInt64.le_iff_toNat_le.mp (some gap List.mem_cons_self)
    have later := ih fun other member => some other (List.mem_cons_of_mem gap member)
    rw [notedRows]
    by_cases here : gap.table = table
    · simp only [here, ↓reduceIte, List.mem_cons, exists_eq_or_imp, true_or, iff_true]
      omega
    · simp [here, later]

/-- How many rows of a statement lack something. -/
def Sql.Insert.lacking (insert : Insert catalog) : Nat :=
  insert.judged.countP fun verdict => !verdict.2.isEmpty

theorem Sql.Insert.lacking_eq_zero {insert : Insert catalog} :
    insert.lacking = 0 ↔ (insert.judged.all fun verdict => verdict.2.isEmpty) = true := by
  simp [lacking, List.countP_eq_zero]

theorem Sql.Insert.length_judged (insert : Insert catalog) :
    insert.judged.length =
      insert.judged.countP (fun verdict => verdict.2.isEmpty) + insert.lacking := by
  rw [lacking, List.length_eq_countP_add_countP fun verdict : Nat × List Text => verdict.2.isEmpty]
  simp only [Bool.not_eq_true, Bool.decide_eq_false]

/-- A gap is one of a table of the catalog, for some of its rows and some of its required fields, which
stand in their order. -/
def Gap.Founded (catalog : Catalog) (gap : Gap) : Prop :=
  ∃ id : catalog.Id, gap.table = (catalog.get id).name ∧ 1 ≤ gap.multiplicity ∧ gap.fields ≠ [] ∧
    gap.fields.Sublist (catalog.get id).required

/-- The statement is no bulk insert into `id` that lacks something in several of its clauses. -/
def Event.Single (event : Event catalog) (id : catalog.Id) : Prop :=
  ∀ insert ∈ event.insert?, insert.Bulk → insert.table = id → insert.lacking ≤ 1

instance (event : Event catalog) (id : catalog.Id) : Decidable (event.Single id) :=
  inferInstanceAs (Decidable (∀ insert ∈ event.insert?, _))

namespace Tally

variable (tally : Tally catalog)

/-- The rows that the gaps of a table are for. -/
def noted (id : catalog.Id) : Nat := notedRows (catalog.get id).name tally.gaps

def balance (id : catalog.Id) : Balance :=
  ⟨(tally.count id).total.toNat, (tally.count id).complete.toNat, tally.noted id⟩

/-- What a statement adds to the balance of its table, where no count overflows. -/
def change (insert : Insert catalog) : Balance :=
  match insert.leader? with
  | some leader =>
    let rows := (tally.count leader).total.toNat
    if insert.judged.isEmpty then ⟨0, 0, 0⟩
    else ⟨rows, if insert.judged.all fun verdict => verdict.2.isEmpty then rows else 0,
      insert.lacking * rows⟩
  | none => ⟨insert.judged.length, insert.judged.countP fun verdict => verdict.2.isEmpty,
      insert.lacking⟩

/-- The count of its table has room for the rows of a statement. There are never more complete rows
than rows, so they have room with them. -/
def Fits : Outcome catalog → Prop
  | .ok insert => (tally.count insert.table).total.toNat + (tally.change insert).total < UInt64.size
  | .error _ => True

/-- No count overflows while statements are counted. -/
def RunFits (tally : Tally catalog) : List (Event catalog) → Prop
  | [] => True
  | event :: rest => tally.Fits event.outcome ∧ (tally.step event).RunFits rest

instance (outcome : Outcome catalog) : Decidable (tally.Fits outcome) :=
  match outcome with
  | .ok _ => inferInstanceAs (Decidable (_ < _))
  | .error _ => inferInstanceAs (Decidable True)

instance decidableRunFits (tally : Tally catalog) :
    (events : List (Event catalog)) → Decidable (tally.RunFits events)
  | [] => inferInstanceAs (Decidable True)
  | event :: rest =>
    have := decidableRunFits (tally.step event) rest
    inferInstanceAs (Decidable (_ ∧ _))

/-- The gaps of a statement are for the rows of it that are not complete, unless it is a bulk insert
that lacks something several times: then each time is a gap for all of its rows. -/
theorem change_cases (insert : Insert catalog) :
    (tally.change insert).Exact ∨
      insert.leader? ≠ none ∧ 1 < insert.lacking ∧ (tally.change insert).complete = 0 ∧
        (tally.change insert).noted = insert.lacking * (tally.change insert).total := by
  cases leads : insert.leader? with
  | none =>
    have alone : tally.change insert = ⟨insert.judged.length,
        insert.judged.countP fun verdict => verdict.2.isEmpty, insert.lacking⟩ := by
      rw [change, leads]
    rw [alone]
    exact .inl insert.length_judged
  | some leader =>
    by_cases nothing : insert.judged.isEmpty = true
    · have empty : tally.change insert = ⟨0, 0, 0⟩ := by
        rw [change, leads]
        exact if_pos nothing
      rw [empty]
      exact .inl rfl
    · have bulk : tally.change insert = ⟨(tally.count leader).total.toNat,
          if insert.judged.all fun verdict => verdict.2.isEmpty then
            (tally.count leader).total.toNat else 0,
          insert.lacking * (tally.count leader).total.toNat⟩ := by
        rw [change, leads]
        exact if_neg nothing
      by_cases complete : (insert.judged.all fun verdict => verdict.2.isEmpty) = true
      · rw [bulk, if_pos complete, Insert.lacking_eq_zero.mpr complete]
        exact .inl (by simp [Balance.Exact])
      · rw [bulk, if_neg complete]
        by_cases several : 1 < insert.lacking
        · exact .inr ⟨Option.some_ne_none leader, several, rfl, rfl⟩
        · have once : insert.lacking = 1 := by
            have some := mt Insert.lacking_eq_zero.mp complete
            omega
          exact .inl (by simp [Balance.Exact, once])

theorem change_sound (insert : Insert catalog) : (tally.change insert).Sound := by
  obtain exact | ⟨_, several, complete, noted⟩ := tally.change_cases insert
  · exact exact.sound
  · have covered : (tally.change insert).total ≤ (tally.change insert).noted :=
      noted ▸ Nat.le_mul_of_pos_left _ (by omega)
    constructor
    · omega
    · omega
    · intro some
      rw [noted] at some
      have := Nat.mul_ne_zero_iff.mp some
      omega

theorem change_exact {insert : Insert catalog} (few : insert.leader? ≠ none → insert.lacking ≤ 1) :
    (tally.change insert).Exact := by
  obtain exact | ⟨follows, several, _⟩ := tally.change_cases insert
  · exact exact
  · have := few follows
    omega

theorem change_noted (insert : Insert catalog) :
    (tally.change insert).noted = insert.lacking * (tally.stake insert).toNat := by
  unfold change stake
  cases insert.leader? with
  | none => exact (Nat.mul_one _).symm
  | some leader =>
    by_cases nothing : insert.judged = []
    · simp [nothing, Insert.lacking]
    · simp [nothing]

/-- What a statement adds to a count, but for overflow, is what it adds to the balance. -/
theorem gain_change (insert : Insert catalog) :
    (tally.gain insert).total.toNat = (tally.change insert).total % UInt64.size ∧
      (tally.gain insert).complete.toNat = (tally.change insert).complete % UInt64.size := by
  unfold gain change
  cases insert.leader? with
  | none => exact ⟨UInt64.toNat_ofNat', UInt64.toNat_ofNat'⟩
  | some leader =>
    have small : (tally.count leader).total.toNat % UInt64.size = (tally.count leader).total.toNat :=
      Nat.mod_eq_of_lt (UInt64.toNat_lt_size _)
    by_cases nothing : insert.judged.isEmpty = true
    · simp [nothing]
    · cases complete : insert.judged.all fun verdict => verdict.2.isEmpty <;>
        simp [nothing, Count.add, small]

private theorem notedRows_gaps (insert : Insert catalog) (origin : Text) (statement : Nat)
    (rows : UInt64) (judged : List (Nat × List Text)) :
    notedRows (catalog.get insert.table).name
        ((judged.map (insert.gap origin statement rows)).filter Gap.tells) =
      (judged.countP fun verdict => !verdict.2.isEmpty) * rows.toNat := by
  induction judged with
  | nil => exact (Nat.zero_mul _).symm
  | cons verdict rest ih =>
    have tells : (insert.gap origin statement rows verdict).tells =
        (!verdict.2.isEmpty && rows != 0) := rfl
    rw [List.map_cons, List.filter_cons, List.countP_cons, tells]
    cases complete : verdict.2.isEmpty with
    | true => simpa using ih
    | false =>
      by_cases none : rows = 0
      · simpa [none] using ih
      · rw [if_pos (by simpa using none), notedRows, ih]
        simp [Insert.gap, Nat.add_mul, Nat.add_comm]

private theorem notedRows_eq_zero {table : Text} {gaps : List Gap}
    (other : ∀ gap ∈ gaps, gap.table ≠ table) : notedRows table gaps = 0 := by
  induction gaps with
  | nil => rfl
  | cons gap rest ih =>
    rw [notedRows, if_neg (other gap List.mem_cons_self), Nat.zero_add]
    exact ih fun next member => other next (List.mem_cons_of_mem gap member)

/-- A statement adds its rows to what the gaps of its table are for. -/
theorem noted_fold (tracked : tally.tracking = true) (insert : Insert catalog) (origin : Text)
    (statement : Nat) (id : catalog.Id) :
    (tally.fold insert origin statement).noted id =
      if id = insert.table then tally.noted id + (tally.change insert).noted
      else tally.noted id := by
  rw [noted, (tally.fold_gaps insert origin statement).2, if_pos tracked, notedRows_append]
  split
  · rename_i same
    rw [same, news, notedRows_gaps, change_noted]
    rfl
  · rename_i other
    have none : notedRows (catalog.get id).name (tally.news insert origin statement) = 0 := by
      apply notedRows_eq_zero
      intro gap member
      rw [(tally.mem_news member).1]
      exact fun same => other (Catalog.name_inj.mp same).symm
    rw [none]
    rfl

private theorem toNat_add_of_room {count more : UInt64} {rows : Nat} (size : more.toNat = rows)
    (room : count.toNat + rows < UInt64.size) : (count + more).toNat = count.toNat + rows := by
  subst size
  rw [UInt64.toNat_add]
  exact Nat.mod_eq_of_lt room

theorem balance_fold (tracked : tally.tracking = true) (insert : Insert catalog)
    (fits : tally.Fits (.ok insert)) (sound : (tally.balance insert.table).Sound) (origin : Text)
    (statement : Nat) (id : catalog.Id) :
    (tally.fold insert origin statement).balance id =
      if id = insert.table then (tally.balance id).plus (tally.change insert)
      else tally.balance id := by
  have counted := (tally.fold_spec insert origin statement).1 id
  have noted := tally.noted_fold tracked insert origin statement id
  rw [balance, counted, noted]
  split
  · rename_i same
    subst same
    obtain ⟨total, complete⟩ := tally.gain_change insert
    have room : (tally.count insert.table).total.toNat + (tally.change insert).total < UInt64.size :=
      fits
    have least : (tally.count insert.table).complete.toNat ≤ (tally.count insert.table).total.toNat :=
      sound.bounded
    have least' := (tally.change_sound insert).bounded
    rw [Nat.mod_eq_of_lt (by omega)] at total complete
    have total' : ((tally.count insert.table).plus (tally.gain insert)).total.toNat =
        (tally.count insert.table).total.toNat + (tally.change insert).total :=
      toNat_add_of_room total room
    have complete' : ((tally.count insert.table).plus (tally.gain insert)).complete.toNat =
        (tally.count insert.table).complete.toNat + (tally.change insert).complete :=
      toNat_add_of_room complete (by omega)
    rw [total', complete']
    rfl
  · rfl

/-- Gaps are kept, all of them have a reason, and for every table they are enough. -/
structure Accounted (tally : Tally catalog) : Prop where
  tracking : tally.tracking = true
  founded : ∀ gap ∈ tally.gaps, gap.Founded catalog
  sound : ∀ id, (tally.balance id).Sound

variable {tally}

theorem balance_start (tracking : Bool) (id : catalog.Id) :
    (start catalog tracking).balance id = ⟨0, 0, 0⟩ := by
  rw [balance, count_start]
  rfl

theorem Accounted.start : Accounted (start catalog true) := by
  refine ⟨rfl, ?_, ?_⟩
  · intro gap member
    cases member
  · intro id
    rw [balance_start]
    exact Balance.Exact.sound rfl

theorem Accounted.fold (accounted : tally.Accounted) {insert : Insert catalog}
    (fits : tally.Fits (.ok insert)) (origin : Text) (statement : Nat) :
    (tally.fold insert origin statement).Accounted := by
  obtain ⟨tracking, gaps⟩ := tally.fold_gaps insert origin statement
  refine ⟨tracking.trans accounted.tracking, ?_, ?_⟩
  · intro gap member
    rw [gaps, if_pos accounted.tracking] at member
    rcases List.mem_append.mp member with before | new
    · exact accounted.founded gap before
    · obtain ⟨table, tells, fields⟩ := tally.mem_news new
      obtain ⟨some, rows⟩ : gap.fields ≠ [] ∧ gap.multiplicity ≠ 0 := by
        simpa [Gap.tells] using tells
      exact ⟨insert.table, table, one_le_of_ne_zero rows, some, fields⟩
  · intro id
    rw [tally.balance_fold accounted.tracking insert fits (accounted.sound _)]
    split
    · exact (accounted.sound id).plus (tally.change_sound insert)
    · exact accounted.sound id

theorem Accounted.step (accounted : tally.Accounted) {event : Event catalog}
    (fits : tally.Fits event.outcome) : (tally.step event).Accounted := by
  obtain ⟨outcome, origin, place⟩ := event
  cases outcome with
  | ok insert => exact accounted.fold fits origin place
  | error => exact ⟨accounted.tracking, accounted.founded, accounted.sound⟩

theorem Accounted.run (accounted : tally.Accounted) {events : List (Event catalog)}
    (fits : tally.RunFits events) : (tally.run events).Accounted := by
  induction events generalizing tally with
  | nil => exact accounted
  | cons event rest ih => exact ih (accounted.step fits.1) fits.2

/-- As long as no bulk insert into a table lacks something several times, its gaps are for no other
rows than those that are not complete. -/
theorem exact_run (accounted : tally.Accounted) {events : List (Event catalog)}
    (fits : tally.RunFits events) {id : catalog.Id} (single : ∀ event ∈ events, event.Single id)
    (exact : (tally.balance id).Exact) : ((tally.run events).balance id).Exact := by
  induction events generalizing tally with
  | nil => exact exact
  | cons event rest ih =>
    apply ih (accounted.step fits.1) fits.2 fun other member => single other (by simp [member])
    obtain ⟨outcome, origin, place⟩ := event
    cases outcome with
    | error => exact exact
    | ok insert =>
      have once : insert.Bulk → insert.table = id → insert.lacking ≤ 1 :=
        single _ List.mem_cons_self insert rfl
      refine (tally.balance_fold accounted.tracking insert fits.1 (accounted.sound _) origin place
        id).symm ▸ ?_
      split
      · rename_i same
        apply exact.plus
        apply change_exact
        intro follows
        obtain ⟨leader, leads⟩ := Option.ne_none_iff_exists'.mp follows
        exact once (Insert.bulk_of_leader leads).1 same.symm
      · exact exact

/-- The gaps account for the counts of every run in which no count overflows. Each is for some row and
some required fields of a table, in their order; a table has one just when it has a row that is not
complete; and its gaps are for all such rows at least, and for those only unless some bulk insert
lacked something in several of its clauses. -/
theorem gaps_account (events : List (Event catalog))
    (fits : (Tally.start catalog true).RunFits events) :
    let final := (Tally.start catalog true).run events
    (∀ gap ∈ final.gaps, gap.Founded catalog) ∧
      ∀ id, (final.count id).complete ≤ (final.count id).total ∧
        ((∃ gap ∈ final.gaps, gap.table = (catalog.get id).name) ↔
          (final.count id).complete < (final.count id).total) ∧
        (final.count id).total.toNat - (final.count id).complete.toNat ≤ final.noted id ∧
        ((∀ event ∈ events, event.Single id) →
          final.noted id = (final.count id).total.toNat - (final.count id).complete.toNat) := by
  intro final
  have accounted : final.Accounted := Accounted.start.run fits
  refine ⟨accounted.founded, ?_⟩
  intro id
  obtain ⟨bounded, covered, shown⟩ := accounted.sound id
  have some : ∀ gap ∈ final.gaps, 1 ≤ gap.multiplicity := by
    intro gap member
    obtain ⟨_, _, rows, _⟩ := accounted.founded gap member
    exact rows
  simp only [balance] at bounded covered shown
  refine ⟨UInt64.le_iff_toNat_le.mpr bounded, ?_, Nat.sub_le_of_le_add (by omega), ?_⟩
  · rw [← notedRows_pos_iff some, UInt64.lt_iff_toNat_lt]
    change 0 < final.noted id ↔ _
    omega
  · intro single
    have exact : (final.balance id).Exact := by
      apply exact_run .start fits single
      rw [balance_start]
      rfl
    simp only [Balance.Exact, balance] at exact
    omega

/-- Two items that lack most fields, their translations from two clauses that each lack a field, and a
statement for a table that is not tracked. -/
def translationRun : List (Event .builtin) :=
  [⟨readInsert .builtin none "INSERT INTO items (name) VALUES ('Sword'), ('');", "a.sql", 1⟩,
    ⟨readInsert .builtin none
      "INSERT INTO item_translations (name) SELECT NULL FROM items UNION ALL SELECT 'a' FROM items;",
      "a.sql", 2⟩,
    ⟨readInsert .builtin none "INSERT INTO players (name) VALUES ('Ada');", "b.sql", 1⟩]

theorem translationRun_account :
    (Tally.start .builtin true).RunFits translationRun ∧
      let final := (Tally.start .builtin true).run translationRun
      final.noted ⟨0, by decide⟩ = 2 ∧
        ∃ gap ∈ final.gaps, gap.table = (Catalog.builtin.get ⟨1, by decide⟩).name := by
  let items : Catalog.builtin.Id := ⟨0, by decide⟩
  let translations : Catalog.builtin.Id := ⟨1, by decide⟩
  let final := (Tally.start .builtin true).run translationRun
  have facts : (Tally.start .builtin true).RunFits translationRun ∧
      (∀ event ∈ translationRun, event.Single items) ∧
        (final.count items).total.toNat - (final.count items).complete.toNat = 2 ∧
          (final.count translations).complete < (final.count translations).total := by
    decide +kernel
  obtain ⟨fits, single, two, some⟩ := facts
  obtain ⟨_, tables⟩ := gaps_account translationRun fits
  obtain ⟨_, _, _, exact⟩ := tables items
  obtain ⟨_, shown, _, _⟩ := tables translations
  exact ⟨fits, (exact single).trans two, shown.mpr some⟩

end Tally
end SeedCoverage

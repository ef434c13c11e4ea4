import Mathlib
import SeedCoverage.Proofs.Remote.Attempts
import SeedCoverage.Proofs.Remote.Page

/-! Reading a table whatever its store answers. Page is fetched behind page up to the first one without
records, or up to the first fault; what was counted before a fault is given up. -/
namespace SeedCoverage.Remote

/-- The course that reading a table takes from an offset on: the pages that are counted, the fault that
ends it, if one does, and the session behind it. -/
inductive Course (server : Server) (client : Client) (spec : TableSpec) :
    Nat → Session → List (List Record) → Option Fault → Session → Prop where
  | ended {offset : Nat} {session final : Session}
      (fetched : fetchPage server client spec offset session = (.ok [], final)) :
      Course server client spec offset session [] none final
  | failed {offset : Nat} {session final : Session} {fault : Fault}
      (fetched : fetchPage server client spec offset session = (.error fault, final)) :
      Course server client spec offset session [] (some fault) final
  | page {offset : Nat} {session later final : Session} {page : List Record}
      {pages : List (List Record)} {ending : Option Fault}
      (fetched : fetchPage server client spec offset session = (.ok page, later))
      (some : page ≠ [])
      (rest : Course server client spec (offset + page.length) later pages ending final) :
      Course server client spec offset session (page :: pages) ending final

variable {server : Server} {client : Client} {spec : TableSpec}

/-- What a course comes to: its fault, or else what the pages are counted to. -/
def endOf (ending : Option Fault) (scan : TableScan) : Except Fault TableScan :=
  match ending with
  | some fault => .error fault
  | none => .ok scan

/-- The table with the records of the pages, numbered from 1: every record is counted once. -/
def scanOf (spec : TableSpec) (tracking : Bool) (pages : List (List Record)) : TableScan where
  row := ⟨spec, ⟨.ofNat pages.flatten.length,
    .ofNat (pages.flatten.countP fun record => (missingIn spec record).isEmpty)⟩⟩
  gaps := if tracking then gapsFrom spec 1 pages else []

theorem enter_start (spec : TableSpec) (tracking : Bool) (pages : List (List Record)) :
    (TableScan.start spec).enter (.ofVerdicts (verdictsOf spec pages))
      (if tracking then gapsFrom spec 1 pages else []) = scanOf spec tracking pages := by
  have counted := Count.ofVerdicts_fields (verdictsOf spec pages)
  rw [verdictsOf_fields, List.length_map, List.countP_map] at counted
  rw [counted]
  simp only [TableScan.enter, TableScan.start, Count.zero_plus, List.nil_append]
  rfl

/-- A course is what is read, if it has not too many pages. -/
theorem Course.fetchPages {offset : Nat} {session final : Session} {pages : List (List Record)}
    {ending : Option Fault} (course : Course server client spec offset session pages ending final)
    (tracking : Bool) {budget : Nat} (enough : pages.length < budget) (first : Nat)
    {scan : TableScan} (own : scan.row.spec = spec) :
    Remote.fetchPages server client tracking budget first offset scan session =
      some (endOf ending (scan.enter (.ofVerdicts (verdictsOf spec pages))
        (if tracking then gapsFrom spec first pages else [])), final) := by
  induction course generalizing budget first scan with
  | ended fetched =>
    cases budget with
    | zero => cases enough
    | succ budget =>
      rw [Remote.fetchPages, own, fetched]
      simp [endOf, verdictsOf, gapsFrom, Count.ofVerdicts, TableScan.enter_nothing]
  | failed fetched =>
    cases budget with
    | zero => cases enough
    | succ budget =>
      rw [Remote.fetchPages, own, fetched]
      rfl
  | @page offset session later final page pages ending fetched some rest ih =>
    cases budget with
    | zero => cases enough
    | succ budget =>
      have counted := ih (Nat.lt_of_succ_lt_succ enough) (first + 1)
        ((scan.addPage_spec tracking first page).trans own)
      obtain ⟨record, records, rfl⟩ := List.exists_cons_of_ne_nil some
      rw [Remote.fetchPages, own, fetched]
      dsimp only
      rw [counted, TableScan.addPage_eq_enter, TableScan.enter_enter, own, verdictsOf_cons,
        Count.ofVerdicts_append, gapsFrom_cons]
      cases tracking <;> rfl

/-- Whatever is read, it takes a course. -/
theorem exists_course {tracking : Bool} {budget first offset : Nat} {scan : TableScan}
    (own : scan.row.spec = spec) {session final : Session} {result : Except Fault TableScan}
    (read : fetchPages server client tracking budget first offset scan session =
      some (result, final)) :
    ∃ pages ending, pages.length < budget ∧
      Course server client spec offset session pages ending final := by
  induction budget generalizing first offset scan session with
  | zero => cases read
  | succ budget ih =>
    rw [fetchPages, own] at read
    cases fetched : fetchPage server client spec offset session with
    | mk outcome later =>
      rw [fetched] at read
      cases outcome with
      | error fault =>
        obtain ⟨_, rfl⟩ := Prod.mk.inj (Option.some.inj read)
        exact ⟨[], some fault, Nat.succ_pos budget, .failed fetched⟩
      | ok page =>
        cases page with
        | nil =>
          obtain ⟨_, rfl⟩ := Prod.mk.inj (Option.some.inj read)
          exact ⟨[], none, Nat.succ_pos budget, .ended fetched⟩
        | cons record records =>
          obtain ⟨pages, ending, few, course⟩ :=
            ih ((scan.addPage_spec tracking first (record :: records)).trans own) read
          exact ⟨(record :: records) :: pages, ending, Nat.succ_lt_succ few,
            .page fetched (List.cons_ne_nil _ _) course⟩

/-- A table is read along a course, and along every course that has not too many pages. -/
theorem fetchTable_eq_iff {tracking : Bool} {budget : Nat} {result : Except Fault TableScan}
    {final : Session} :
    fetchTable server client spec tracking budget = some (result, final) ↔
      ∃ pages ending, pages.length < budget ∧ Course server client spec 0 {} pages ending final ∧
        result = endOf ending (scanOf spec tracking pages) := by
  have own : (TableScan.start spec).row.spec = spec := rfl
  constructor
  · intro read
    obtain ⟨pages, ending, few, course⟩ := exists_course own read
    have counted := course.fetchPages tracking few 1 own
    rw [enter_start] at counted
    have same := (Option.some.inj (read.symm.trans counted))
    exact ⟨pages, ending, few, course, congrArg Prod.fst same⟩
  · rintro ⟨pages, ending, few, course, rfl⟩
    have counted := course.fetchPages tracking few 1 own
    rwa [enter_start] at counted

/-- Retries are bounded, and a page that fails fails its table. A page is fetched by as many attempts as
the policy allows, or as many as it takes to a final outcome if these are fewer: they make the same
request, there is one wait less than there are attempts, and the outcome of the last attempt is that of
the page. A table's first failed page is its fault, behind which no page is asked for; a table without
one has just the records of its pages. -/
theorem retries_bounded (server : Server) (client : Client) (spec : TableSpec) :
    (∀ offset session, ∃ attempts waits,
      ((attempts + 1 : ℕ) : ℕ∞) = min ((client.retry.retries + 1 : ℕ) : ℕ∞)
          (firstFinal server client spec offset session.requests) ∧
        waits.length = attempts ∧
        fetchPage server client spec offset session =
          (attempt server client spec offset session.requests attempts,
            ⟨session.requests ++ attemptRequests client spec offset (attempts + 1),
              session.waits ++ waits⟩)) ∧
      ∀ tracking budget result final,
        fetchTable server client spec tracking budget = some (result, final) ↔
          ∃ pages ending, pages.length < budget ∧
            Course server client spec 0 {} pages ending final ∧
            result = endOf ending (scanOf spec tracking pages) := by
  constructor
  · intro offset session
    obtain ⟨attempts, last, fetched⟩ := fetchPage_attempts server client spec offset session
    exact ⟨attempts, _, last.number, length_waitsOf _ attempts, fetched⟩
  · intro tracking budget result final
    exact fetchTable_eq_iff

end SeedCoverage.Remote

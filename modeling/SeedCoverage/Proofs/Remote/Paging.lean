import Mathlib
import SeedCoverage.Proofs.Remote.Course

/-! Reading a table page by page. Whatever the pages are that a store cuts a table into, they are asked
for one behind the other, and every record is counted once. -/
namespace SeedCoverage.Remote

open Text

variable {server : Server} {client : Client} {spec : TableSpec}

/-- A conversation about the pages from an offset on, behind earlier requests: each page is asked for
where the one before it ends, and only the last answer has no records. -/
inductive Paged (server : Server) (client : Client) (spec : TableSpec) :
    Nat → List Request → List (List Record) → List Request → Prop where
  | done {offset : Nat} {earlier : List Request} {request : Request}
      (asked : client.request spec offset = .ok request)
      (answered : (server (earlier ++ [request])).page spec request = .ok []) :
      Paged server client spec offset earlier [] [request]
  | page {offset : Nat} {earlier : List Request} {request : Request} {page : List Record}
      {pages : List (List Record)} {requests : List Request}
      (asked : client.request spec offset = .ok request)
      (answered : (server (earlier ++ [request])).page spec request = .ok page)
      (some : page ≠ [])
      (rest : Paged server client spec (offset + page.length) (earlier ++ [request]) pages requests) :
      Paged server client spec offset earlier (page :: pages) (request :: requests)

namespace Paged

variable {offset : Nat} {earlier : List Request} {pages : List (List Record)}
  {requests : List Request}

theorem length (paged : Paged server client spec offset earlier pages requests) :
    requests.length = pages.length + 1 := by
  induction paged with
  | done => rfl
  | page _ _ _ _ ih => rw [List.length_cons, List.length_cons, ih]

theorem nonempty (paged : Paged server client spec offset earlier pages requests) :
    ∀ page ∈ pages, page ≠ [] := by
  induction paged with
  | done =>
    intro page member
    cases member
  | page _ _ some _ ih =>
    intro page member
    rcases List.mem_cons.mp member with rfl | later
    · exact some
    · exact ih page later

/-- The offsets are the running sums of the pages' lengths. -/
theorem asked (paged : Paged server client spec offset earlier pages requests) {place : Nat}
    {request : Request} (here : requests[place]? = some request) :
    client.request spec (offset + (pages.take place).flatten.length) = .ok request := by
  induction paged generalizing place with
  | done asked =>
    cases place with
    | zero =>
      obtain rfl := Option.some.inj here
      exact asked
    | succ place => cases here
  | page asked _ _ _ ih =>
    cases place with
    | zero =>
      obtain rfl := Option.some.inj here
      exact asked
    | succ place =>
      have later := ih here
      rwa [Nat.add_assoc, ← List.length_append] at later

theorem answered (paged : Paged server client spec offset earlier pages requests) {place : Nat}
    {request : Request} (here : requests[place]? = some request) :
    (server (earlier ++ requests.take (place + 1))).page spec request =
      .ok (pages[place]?.getD []) := by
  induction paged generalizing place with
  | done _ answered =>
    cases place with
    | zero =>
      obtain rfl := Option.some.inj here
      exact answered
    | succ place => cases here
  | page _ answered _ _ ih =>
    cases place with
    | zero =>
      obtain rfl := Option.some.inj here
      exact answered
    | succ place =>
      have later := ih here
      rwa [List.append_assoc] at later

end Paged

/-- No page is empty, so there are no more pages than records. -/
theorem length_le_flatten {α : Type} {pages : List (List α)} (some : ∀ page ∈ pages, page ≠ []) :
    pages.length ≤ pages.flatten.length := by
  have positive : ∀ size ∈ pages.map List.length, 1 ≤ size := by
    intro size member
    obtain ⟨page, present, rfl⟩ := List.mem_map.mp member
    exact List.length_pos_iff.mpr (some page present)
  have counted := List.length_le_sum_of_one_le _ positive
  rwa [List.length_map, ← List.length_flatten] at counted

theorem Paged.course {offset : Nat} {earlier : List Request} {pages : List (List Record)}
    {requests : List Request}
    (paged : Paged server client spec offset earlier pages requests) (waits : List Wait) :
    Course server client spec offset ⟨earlier, waits⟩ pages none ⟨earlier ++ requests, waits⟩ := by
  induction paged with
  | done asked answered => exact .ended (fetchPage_answered ⟨_, waits⟩ asked answered)
  | @page offset earlier request page pages requests asked answered some _ ih =>
    rw [List.append_assoc] at ih
    exact .page (fetchPage_answered ⟨earlier, waits⟩ asked answered) some ih

/-- A store that has `records` for a table: at every offset up to their end it answers with some of
those that are left, as long as there are any. -/
def Serves (server : Server) (client : Client) (spec : TableSpec) (records : List Record) : Prop :=
  ∀ offset ≤ records.length, ∃ request, client.request spec offset = .ok request ∧
    ∀ earlier : List Request, ∃ body page,
      server (earlier ++ [request]) = .answer 200 body ∧ records? body = some page ∧
        page <+: records.drop offset ∧ (offset < records.length → page ≠ [])

/-- From every offset on the pages are what is left of the records. -/
theorem Serves.paged {records : List Record} (serves : Serves server client spec records)
    {offset : Nat} (within : offset ≤ records.length) (earlier : List Request) :
    ∃ pages requests, Paged server client spec offset earlier pages requests ∧
      pages.flatten = records.drop offset := by
  induction left : records.length - offset using Nat.strongRecOn generalizing offset earlier with
  | ind left ih =>
    obtain ⟨request, asked, answers⟩ := serves offset within
    obtain ⟨body, page, reply, read, ⟨rest, whole⟩, some⟩ := answers earlier
    have answered : (server (earlier ++ [request])).page spec request = .ok page := by
      rw [reply, page_answer read]
    by_cases ended : page = []
    · subst ended
      have nothing : records.drop offset = [] := by
        apply List.drop_eq_nil_of_le
        exact Nat.le_of_not_lt fun more => some more rfl
      exact ⟨[], [request], .done asked answered, nothing.symm⟩
    · have size := congrArg List.length whole
      rw [List.length_append, List.length_drop] at size
      have positive := List.length_pos_iff.mpr ended
      have further : offset + page.length ≤ records.length := by omega
      obtain ⟨pages, requests, paged, flat⟩ :=
        ih _ (by omega) further (earlier ++ [request]) rfl
      refine ⟨page :: pages, request :: requests, .page asked answered ended paged, ?_⟩
      rw [List.flatten_cons, flat, ← List.drop_drop, ← whole, List.drop_left]

/-- A store that serves a table is read to its end, in one conversation. -/
theorem Serves.fetched {records : List Record} (serves : Serves server client spec records)
    (tracking : Bool) {budget : Nat} (enough : records.length < budget) :
    ∃ pages requests, Paged server client spec 0 [] pages requests ∧ pages.flatten = records ∧
      fetchTable server client spec tracking budget =
        some (.ok ((TableScan.start spec).enter (.ofVerdicts (verdictsOf spec pages))
          (if tracking then gapsFrom spec 1 pages else [])), ⟨requests, []⟩) := by
  obtain ⟨pages, requests, paged, flat⟩ := serves.paged (Nat.zero_le _) []
  rw [List.drop_zero] at flat
  have few := length_le_flatten paged.nonempty
  rw [flat] at few
  exact ⟨pages, requests, paged, flat, (paged.course []).fetchPages tracking (by omega) 1 rfl⟩

/-- However a store cuts the records of a table into pages, every record is counted once. The pages are
asked for where the ones before them end, with no more requests than one for each record and one more;
and what a record lacks is kept under the number of its page and its place there. -/
theorem fetchTable_counts_once {records : List Record} (serves : Serves server client spec records)
    (tracking : Bool) {budget : Nat} (enough : records.length < budget) :
    ∃ pages requests scan,
      fetchTable server client spec tracking budget = some (.ok scan, ⟨requests, []⟩) ∧
        pages.flatten = records ∧ (∀ page ∈ pages, page ≠ []) ∧
        requests.length = pages.length + 1 ∧ requests.length ≤ records.length + 1 ∧
        (∀ place request, requests[place]? = some request →
          client.request spec (pages.take place).flatten.length = .ok request ∧
            (server (requests.take (place + 1))).page spec request = .ok (pages[place]?.getD [])) ∧
        scan.row = ⟨spec, ⟨.ofNat records.length,
          .ofNat (records.countP fun record => (missingIn spec record).isEmpty)⟩⟩ ∧
        scan.gaps = if tracking then gapsFrom spec 1 pages else [] := by
  obtain ⟨pages, requests, paged, flat, fetched⟩ := serves.fetched tracking enough
  have few := length_le_flatten paged.nonempty
  have size := paged.length
  rw [flat] at few
  refine ⟨pages, requests, _, fetched, flat, paged.nonempty, size, by omega, ?_, ?_, ?_⟩
  · intro place request here
    have asked := paged.asked here
    rw [Nat.zero_add] at asked
    exact ⟨asked, paged.answered here⟩
  · have counted := Count.ofVerdicts_fields (verdictsOf spec pages)
    rw [verdictsOf_fields, flat, List.length_map, List.countP_map] at counted
    rw [counted]
    simp only [TableScan.enter, TableScan.start, Count.zero_plus]
    rfl
  · exact List.nil_append _

/-- What a store answers that has a limit of `cap` records. -/
def cappedBody (records : List Record) (cap offset : Nat) : List UInt8 :=
  Utf8.encode (Json.render (.array (((records.drop offset).take cap).map .object)))

/-- A store that answers every request, but with no more than `cap` records at a time. -/
def capped (client : Client) (spec : TableSpec) (records : List Record) (cap : Nat) : Server :=
  fun requests =>
    match (List.range (records.length + 1)).find? fun offset =>
      (client.request spec offset).toOption == requests.getLast? with
    | some offset => .answer 200 (cappedBody records cap offset)
    | none => .silence

theorem Serves.of_capped {records : List Record} {cap : Nat} (positive : 0 < cap)
    (answers : ∀ offset ≤ records.length,
      (client.request spec offset).toOption.map (fun request =>
        capped client spec records cap [request]) = some (.answer 200 (cappedBody records cap offset)))
    (readable : ∀ offset ≤ records.length,
      records? (cappedBody records cap offset) = some ((records.drop offset).take cap)) :
    Serves (capped client spec records cap) client spec records := by
  intro offset within
  have answer := answers offset within
  cases asked : client.request spec offset with
  | error fault => simp [asked, Except.toOption] at answer
  | ok request =>
    refine ⟨request, rfl, ?_⟩
    intro earlier
    have last : capped client spec records cap (earlier ++ [request]) =
        capped client spec records cap [request] := by
      simp [capped]
    rw [asked] at answer
    refine ⟨_, _, last.trans (Option.some.inj answer), readable offset within,
      List.take_prefix .., ?_⟩
    intro more nothing
    have size := congrArg List.length nothing
    rw [List.length_take, List.length_drop, List.length_nil] at size
    omega

def localClient : Client := .ofParts "http://[::1]:8000/" "key" 1000 {}

/-- Items with a name and a rarity. -/
def rareItems : TableSpec := ⟨"Items", "items", ["name", "rarity"], none⟩

def threeItems : List Record :=
  let field (name value : Text) : Text × Json := (name, .string value)
  [[field "name" "Sword", field "rarity" "rare"], [field "name" "Shield", ("rarity".toList, .null)],
    [field "rarity" " "]]

set_option maxRecDepth 10000 in
theorem threeItems_counted_once :
    Serves (capped localClient rareItems threeItems 2) localClient rareItems threeItems ∧
      ∃ (pages : List (List Record)) (requests : List Request) (scan : TableScan),
        fetchTable (capped localClient rareItems threeItems 2) localClient rareItems true 4 =
            some (.ok scan, ⟨requests, []⟩) ∧
          pages.flatten = threeItems ∧ scan.row.count = ⟨3, 1⟩ := by
  have serves : Serves (capped localClient rareItems threeItems 2) localClient rareItems threeItems := by
    apply Serves.of_capped (by decide)
    · decide +kernel
    · intro offset within
      have cases : offset = 0 ∨ offset = 1 ∨ offset = 2 ∨ offset = 3 := by
        have size : threeItems.length = 3 := rfl
        omega
      rcases cases with rfl | rfl | rfl | rfl <;> cbv
  obtain ⟨pages, requests, scan, fetched, flat, _, _, _, _, row, _⟩ :=
    fetchTable_counts_once serves true (show threeItems.length < 4 by decide)
  exact ⟨serves, pages, requests, scan, fetched, flat, row ▸ by decide +kernel⟩

end SeedCoverage.Remote

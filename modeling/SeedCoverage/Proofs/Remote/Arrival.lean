import SeedCoverage.Proofs.Remote.Paging
import SeedCoverage.Proofs.Result
import SeedCoverage.Remote.Store

/-! Tables that arrive in any order. Each of them comes to its own place, so that the order shows in the
report only where a table cannot be read; then the first one to arrive without its rows is all there
is. -/
namespace SeedCoverage.Remote

open Text

theorem fetchPages_spec {server : Server} {client : Client} {tracking : Bool}
    {budget page offset : Nat} {scan result : TableScan} {session final : Session}
    (fetched : fetchPages server client tracking budget page offset scan session =
      some (.ok result, final)) : result.row.spec = scan.row.spec := by
  induction budget generalizing page offset scan session with
  | zero => cases fetched
  | succ budget ih =>
    rw [fetchPages] at fetched
    split at fetched
    · cases fetched
    · cases fetched
      rfl
    · exact (ih fetched).trans (scan.addPage_spec tracking page _)

variable {catalog : Catalog}

/-- Every table is read from some store, by some client. -/
def Fetched (fetched : catalog.Id → Except Fault TableScan) : Prop :=
  ∀ id, ∃ server client tracking budget session,
    fetchTable server client (catalog.get id) tracking budget = some (fetched id, session)

section Store

variable {servers : Servers} {client : Client} {tracking : Bool} {budget : Nat}

/-- What is read of the tables of a store, none of which has too many pages. -/
def ReadAll (servers : Servers) (client : Client) (tracking : Bool) (budget : Nat)
    (results : catalog.Id → Except Fault TableScan) : Prop :=
  ∀ id, (fetchTable (servers (catalog.get id)) client (catalog.get id) tracking budget).map Prod.fst =
    some (results id)

variable {results : catalog.Id → Except Fault TableScan}

theorem ReadAll.fetched (read : ReadAll servers client tracking budget results) : Fetched results := by
  intro id
  obtain ⟨⟨result, session⟩, table, rfl⟩ := Option.map_eq_some_iff.mp (read id)
  exact ⟨_, _, tracking, budget, session, table⟩

/-- A whole store is reported as its tables are when they arrive in the order of the catalog. -/
theorem ReadAll.report (read : ReadAll servers client tracking budget results) :
    (fetchAll servers client catalog tracking budget).map reportAll =
      some (collect results catalog.ids) := by
  choose fetched table first using fun id => Option.map_eq_some_iff.mp (read id)
  have whole : fetchAll servers client catalog tracking budget = some (Vector.ofFn fetched) := by
    rw [fetchAll, vector_mapM_id_eq_some, Vector.map_ofFn]
    exact congrArg Vector.ofFn (funext table)
  rw [whole, Option.map_some, reportAll]
  have each : (fun id : catalog.Id => ((Vector.ofFn fetched).get id).1) = results := by
    funext id
    rw [← first id, Vector.get_ofFn]
  rw [each]

end Store

variable {fetched : catalog.Id → Except Fault TableScan}

theorem Fetched.spec (results : Fetched fetched) {id : catalog.Id} {scan : TableScan}
    (read : fetched id = .ok scan) : scan.row.spec = catalog.get id := by
  obtain ⟨server, client, tracking, budget, session, table⟩ := results id
  rw [read] at table
  exact fetchPages_spec table

/-- Tables that can all be read come to their places, and leave the other places as they are. -/
theorem arrive_ok {scans : catalog.Id → TableScan} {order : List catalog.Id}
    (read : ∀ id ∈ order, fetched id = .ok (scans id)) (arrivals : Arrivals catalog) :
    ∃ final, arrive fetched order arrivals = .ok final ∧
      (∀ id ∈ order, final.get id = some (scans id)) ∧
        ∀ id ∉ order, final.get id = arrivals.get id := by
  induction order generalizing arrivals with
  | nil =>
    refine ⟨arrivals, rfl, ?_, fun id _ => rfl⟩
    intro id member
    cases member
  | cons first rest ih =>
    obtain ⟨final, arrived, filled, others⟩ :=
      ih (fun id member => read id (List.mem_cons_of_mem first member))
        (catalog.put arrivals first (some (scans first)))
    refine ⟨final, ?_, ?_, ?_⟩
    · rw [arrive, read first List.mem_cons_self]
      exact arrived
    · intro id member
      by_cases later : id ∈ rest
      · exact filled id later
      · obtain rfl := (List.mem_cons.mp member).resolve_right later
        rw [others id later, Catalog.get_put, if_pos rfl]
    · intro id absent
      rw [List.mem_cons, not_or] at absent
      rw [others id absent.2, Catalog.get_put, if_neg absent.1]

/-- The first table to arrive without its rows lacks them for that cause. -/
def FirstFault (fetched : catalog.Id → Except Fault TableScan) (order : List catalog.Id)
    (cause : Fault) : Prop :=
  ∃ before first after, order = before ++ first :: after ∧
    (∀ earlier ∈ before, (fetched earlier).isOk = true) ∧ fetched first = .error cause

/-- Behind a table that cannot be read nothing matters. -/
theorem FirstFault.arrive {order : List catalog.Id} {cause : Fault}
    (broken : FirstFault fetched order cause) (arrivals : Arrivals catalog) :
    arrive fetched order arrivals = .error cause := by
  obtain ⟨before, first, after, rfl, read, fails⟩ := broken
  induction before generalizing arrivals with
  | nil => rw [List.nil_append, Remote.arrive, fails]
  | cons earlier rest ih =>
    have sound := read earlier List.mem_cons_self
    cases scan : fetched earlier with
    | error other =>
      rw [scan] at sound
      cases sound
    | ok scan' =>
      rw [List.cons_append, Remote.arrive, scan]
      exact ih _ fun other member => read other (List.mem_cons_of_mem earlier member)

/-- If any table cannot be read, one of those is the first to arrive. -/
theorem exists_firstFault {order : List catalog.Id} {id : catalog.Id} {fault : Fault}
    (member : id ∈ order) (fails : fetched id = .error fault) :
    ∃ cause, FirstFault fetched order cause := by
  cases found : order.find? fun id => !(fetched id).isOk with
  | none =>
    have sound := List.find?_eq_none.mp found id member
    rw [fails] at sound
    simp [Except.isOk, Except.toBool] at sound
  | some first =>
    obtain ⟨broken, before, after, split, sound⟩ := List.find?_eq_some_iff_append.mp found
    cases scan : fetched first with
    | ok scan' =>
      rw [scan] at broken
      cases broken
    | error cause =>
      refine ⟨cause, before, first, after, split, ?_, scan⟩
      intro earlier member
      simpa using sound earlier member

theorem toList_eq_map {α : Type} (values : catalog.PerTable α) :
    values.toList = catalog.ids.map values.get := by
  apply List.ext_getElem
  · rw [Vector.length_toList, List.length_map, Catalog.ids, List.length_finRange]
  · intro place _ _
    simp only [Catalog.ids, List.getElem_map, List.getElem_finRange, Vector.getElem_toList]
    rfl

theorem ids_map_get : catalog.ids.map catalog.get = catalog.tables := by
  apply List.ext_getElem
  · rw [List.length_map, Catalog.ids, List.length_finRange]
  · intro place _ _
    simp [Catalog.ids, Catalog.get]

/-- The report of a store in which every table can be read: the tables and their gaps as the catalog has
them. -/
def fullReport (scans : catalog.Id → TableScan) : Report where
  source := .remote
  rows := catalog.ids.map fun id => (scans id).row
  gaps := catalog.ids.flatMap fun id => (scans id).gaps

/-- When every place is filled, no table is left out. -/
theorem reportOf_full {scans : catalog.Id → TableScan} {arrivals : Arrivals catalog}
    (full : ∀ id, arrivals.get id = some (scans id)) : reportOf arrivals = fullReport scans := by
  have placed : arrivals.toList.filterMap id = catalog.ids.map scans := by
    rw [toList_eq_map, List.map_congr_left fun place _ => full place, List.filterMap_map]
    exact congrFun List.filterMap_eq_map _
  rw [reportOf, placed, fullReport, List.map_map, List.flatMap_map]
  rfl

/-- If all tables can be read, the report is the same for every order in which they arrive. If some
cannot, the first of them to arrive is the fault. Whatever arrives, a report never lacks a table. -/
theorem collect_any_order (results : Fetched fetched) {order : List catalog.Id}
    (each : order.Perm catalog.ids) :
    (∀ scans : catalog.Id → TableScan, (∀ id, fetched id = .ok (scans id)) →
      collect fetched order = .ok (fullReport scans)) ∧
      (∀ id fault, fetched id = .error fault →
        ∃ cause, FirstFault fetched order cause ∧ collect fetched order = .error cause) ∧
      ∀ report, collect fetched order = .ok report →
        report.rows.map TableCount.spec = catalog.tables := by
  have listed (id : catalog.Id) : id ∈ order := each.mem_iff.mpr (List.mem_finRange id)
  have whole (scans : catalog.Id → TableScan) (read : ∀ id, fetched id = .ok (scans id)) :
      collect fetched order = .ok (fullReport scans) := by
    obtain ⟨final, arrived, filled, _⟩ := arrive_ok (fun id _ => read id) (Vector.replicate _ none)
    rw [collect, arrived]
    exact congrArg Except.ok (reportOf_full fun id => filled id (listed id))
  have broken (id : catalog.Id) (fault : Fault) (fails : fetched id = .error fault) :
      ∃ cause, FirstFault fetched order cause ∧ collect fetched order = .error cause := by
    obtain ⟨cause, first⟩ := exists_firstFault (listed id) fails
    refine ⟨cause, first, ?_⟩
    rw [collect, first.arrive]
    rfl
  refine ⟨whole, broken, ?_⟩
  intro report collected
  have read : ∀ id, ∃ scan, fetched id = .ok scan := by
    intro id
    cases scan : fetched id with
    | ok scan' => exact ⟨scan', rfl⟩
    | error fault =>
      obtain ⟨cause, _, failed⟩ := broken id fault scan
      rw [collected] at failed
      cases failed
  obtain ⟨scans, read⟩ := Classical.skolem.mp read
  obtain rfl := Except.ok.inj ((whole scans read).symm.trans collected)
  rw [fullReport, List.map_map, ← ids_map_get]
  exact List.map_congr_left fun id _ => results.spec (read id)

/-- A store that has one record for every table, in which nothing is said; but some of the tables are
refused. -/
def blankStore (refused : List Text) : Servers := fun spec requests =>
  if refused.elem spec.name then .answer 404 []
  else .answer 200 (Utf8.encode (if requests.length = 1 then "[\x7b\x7d]" else "[]"))

/-- What is read of such a store. -/
def readBlank (refused : List Text) (id : Catalog.builtin.Id) : Except Fault TableScan :=
  ((fetchTable (blankStore refused (Catalog.builtin.get id)) localClient (Catalog.builtin.get id)
    true 2).map Prod.fst).getD (.error .malformedBody)

def blankScan (id : Catalog.builtin.Id) : TableScan :=
  let spec := Catalog.builtin.get id
  ⟨⟨spec, ⟨1, 0⟩⟩, [⟨spec.name, "remote:" ++ spec.name, 1, 1, 1, spec.required⟩]⟩

theorem readBlank_fetched {refused : List Text}
    (ends : ∀ id : Catalog.builtin.Id, (fetchTable (blankStore refused (Catalog.builtin.get id))
      localClient (Catalog.builtin.get id) true 2).isSome = true) : Fetched (readBlank refused) := by
  have read : ReadAll (blankStore refused) localClient true 2 (readBlank refused) := by
    intro id
    obtain ⟨fetched, table⟩ := Option.isSome_iff_exists.mp (ends id)
    rw [readBlank, table]
    rfl
  exact read.fetched

theorem eq_ok_of_toOption {result : Except Fault TableScan} {scan : TableScan}
    (read : result.toOption = some scan) : result = .ok scan := by
  cases result with
  | ok other => rw [Option.some.inj read]
  | error fault => cases read

theorem exists_fault {result : Except Fault TableScan} (broken : result.isOk = false) :
    ∃ fault, result = .error fault := by
  cases result with
  | ok scan => cases broken
  | error fault => exact ⟨fault, rfl⟩

theorem blankStore_any_order :
    Fetched (readBlank []) ∧ Fetched (readBlank ["quests".toList, "items".toList]) ∧
      Catalog.builtin.ids.reverse.Perm Catalog.builtin.ids ∧
      collect (readBlank []) Catalog.builtin.ids.reverse = .ok (fullReport blankScan) ∧
      ∃ cause, collect (readBlank ["quests".toList, "items".toList]) Catalog.builtin.ids.reverse =
        .error cause := by
  have whole : Fetched (readBlank []) := readBlank_fetched (by decide +kernel)
  have partly : Fetched (readBlank ["quests".toList, "items".toList]) :=
    readBlank_fetched (by decide +kernel)
  have each : Catalog.builtin.ids.reverse.Perm Catalog.builtin.ids := List.reverse_perm _
  refine ⟨whole, partly, each, ?_, ?_⟩
  · have read : ∀ id, (readBlank [] id).toOption = some (blankScan id) := by decide +kernel
    exact (collect_any_order whole each).1 blankScan fun id => eq_ok_of_toOption (read id)
  · have refused : (readBlank ["quests".toList, "items".toList] ⟨0, by decide⟩).isOk = false := by
      decide +kernel
    obtain ⟨fault, read⟩ := exists_fault refused
    obtain ⟨cause, _, failed⟩ := (collect_any_order partly each).2.1 _ fault read
    exact ⟨cause, failed⟩

end SeedCoverage.Remote

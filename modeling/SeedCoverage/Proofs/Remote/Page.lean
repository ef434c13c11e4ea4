import SeedCoverage.Proofs.Coverage.Fold
import SeedCoverage.Remote.Fetch

/-! One page of a remote table: how it is got, and what counting it comes to. Every record is judged by
itself, as a row of a statement is. -/
namespace SeedCoverage.Remote

open Text

section Answer

variable {server : Server} {client : Client} {spec : TableSpec} {offset : Nat} {request : Request}
  {page : List Record}

theorem page_answer {body : List UInt8} (read : records? body = some page) :
    (Reply.answer 200 body).page spec request = .ok page := by
  have body_kept : isBodiless 200 = false := by decide
  have success : isSuccess 200 = true := by decide
  simp [Reply.page, body_kept, success, read]

theorem fetchPage_answered (session : Session) (asked : client.request spec offset = .ok request)
    (answered : (server (session.requests ++ [request])).page spec request = .ok page) :
    fetchPage server client spec offset session =
      (.ok page, { session with requests := session.requests ++ [request] }) := by
  have first : ask server client spec offset session =
      (.ok page, { session with requests := session.requests ++ [request] }) := by
    rw [ask, asked]
    exact congrArg (·, _) answered
  unfold fetchPage
  cases client.retry.retries with
  | zero => exact first
  | succ left => rw [askPatiently, first]

end Answer

/-- What is found of a record, with its place. -/
def verdict (spec : TableSpec) (entry : Record × Nat) : Nat × List Text :=
  (entry.2, missingIn spec entry.1)

/-- What is found of each record of a page, with its place from 1. -/
def pageVerdicts (spec : TableSpec) (records : List Record) : List (Nat × List Text) :=
  (records.zipIdx 1).map (verdict spec)

/-- What a verdict is kept as: the number of the page, and the place of the record there. -/
def pageGap (spec : TableSpec) (page : Nat) (verdict : Nat × List Text) : Gap :=
  ⟨spec.name, "remote:" ++ spec.name, page, verdict.1, 1, verdict.2⟩

/-- The gaps of what lacks something, in their order. -/
def gapsOf (spec : TableSpec) (page : Nat) (verdicts : List (Nat × List Text)) : List Gap :=
  (verdicts.filter fun verdict => !verdict.2.isEmpty).map (pageGap spec page)

theorem gapsOf_append (spec : TableSpec) (page : Nat) (verdicts more : List (Nat × List Text)) :
    gapsOf spec page (verdicts ++ more) = gapsOf spec page verdicts ++ gapsOf spec page more := by
  rw [gapsOf, List.filter_append, List.map_append]
  rfl

theorem gapsOf_fields (spec : TableSpec) (page : Nat) (verdicts : List (Nat × List Text)) :
    (gapsOf spec page verdicts).map Gap.fields =
      (verdicts.map Prod.snd).filter fun fields => !fields.isEmpty := by
  rw [gapsOf, List.map_map, List.filter_map]
  rfl

/-- The gaps of a page: one for every record that lacks something. -/
def pageGaps (spec : TableSpec) (page : Nat) (records : List Record) : List Gap :=
  gapsOf spec page (pageVerdicts spec records)

theorem pageVerdicts_fields (spec : TableSpec) (records : List Record) :
    (pageVerdicts spec records).map Prod.snd = records.map (missingIn spec) := by
  have places : (records.zipIdx 1).map Prod.fst = records := List.zipIdx_map_fst 1 records
  rw [pageVerdicts, List.map_map]
  conv => rhs; rw [← places, List.map_map]
  rfl

/-- What is found of the records of all pages. -/
def verdictsOf (spec : TableSpec) (pages : List (List Record)) : List (Nat × List Text) :=
  pages.flatMap (pageVerdicts spec)

/-- The gaps of pages that are numbered from `first` on. -/
def gapsFrom (spec : TableSpec) (first : Nat) (pages : List (List Record)) : List Gap :=
  (pages.zipIdx first).flatMap fun (records, page) => pageGaps spec page records

theorem verdictsOf_fields (spec : TableSpec) (pages : List (List Record)) :
    (verdictsOf spec pages).map Prod.snd = pages.flatten.map (missingIn spec) := by
  induction pages with
  | nil => rfl
  | cons page rest ih =>
    have first := pageVerdicts_fields spec page
    rw [verdictsOf, List.flatMap_cons, List.map_append, List.flatten_cons, List.map_append, first]
    exact congrArg _ ih

theorem verdictsOf_cons (spec : TableSpec) (page : List Record) (rest : List (List Record)) :
    verdictsOf spec (page :: rest) = pageVerdicts spec page ++ verdictsOf spec rest :=
  List.flatMap_cons

theorem gapsFrom_cons (spec : TableSpec) (first : Nat) (page : List Record)
    (rest : List (List Record)) :
    gapsFrom spec first (page :: rest) = pageGaps spec first page ++ gapsFrom spec (first + 1) rest :=
  List.flatMap_cons

theorem gapsFrom_fields (spec : TableSpec) (first : Nat) (pages : List (List Record)) :
    (gapsFrom spec first pages).map Gap.fields =
      ((verdictsOf spec pages).map Prod.snd).filter fun fields => !fields.isEmpty := by
  induction pages generalizing first with
  | nil => rfl
  | cons page rest ih =>
    rw [gapsFrom_cons, List.map_append, ih, pageGaps, gapsOf_fields, verdictsOf_cons, List.map_append,
      List.filter_append]

namespace TableScan

/-- Raises the count of a table, and puts gaps behind the others. -/
def enter (scan : TableScan) (count : Count) (gaps : List Gap) : TableScan :=
  { row := { scan.row with count := scan.row.count.plus count }, gaps := scan.gaps ++ gaps }

theorem enter_nothing (scan : TableScan) : scan.enter {} [] = scan := by
  rw [enter, Count.plus_zero, List.append_nil]

theorem enter_enter (scan : TableScan) (count more : Count) (gaps later : List Gap) :
    (scan.enter count gaps).enter more later = scan.enter (count.plus more) (gaps ++ later) := by
  simp only [enter, Count.plus_assoc, List.append_assoc]

private theorem add_eq_enter (scan : TableScan) (tracking : Bool) (page : Nat)
    (entry : Record × Nat) :
    scan.add tracking page entry =
      scan.enter (.add {} 1 (verdict scan.row.spec entry).2.isEmpty)
        (if tracking then gapsOf scan.row.spec page [verdict scan.row.spec entry] else []) := by
  simp only [add, enter, verdict]
  rw [scan.row.count.add_eq_plus]
  cases tracking with
  | false => simp
  | true =>
    cases complete : (missingIn scan.row.spec entry.1).isEmpty <;> simp [gapsOf, pageGap, complete]

private theorem foldl_add_eq_enter (scan : TableScan) (tracking : Bool) (page : Nat)
    (entries : List (Record × Nat)) :
    entries.foldl (add tracking page) scan =
      scan.enter (.ofVerdicts (entries.map (verdict scan.row.spec)))
        (if tracking then gapsOf scan.row.spec page (entries.map (verdict scan.row.spec))
          else []) := by
  induction entries generalizing scan with
  | nil => simp [gapsOf, Count.ofVerdicts, enter_nothing]
  | cons entry rest ih =>
    have same : (scan.add tracking page entry).row.spec = scan.row.spec := rfl
    rw [List.foldl_cons, ih, same, add_eq_enter, enter_enter, List.map_cons, Count.ofVerdicts_cons]
    cases tracking with
    | false => rfl
    | true => exact congrArg _ (gapsOf_append _ page [verdict _ entry] _).symm

/-- A page adds what is found of its records. -/
theorem addPage_eq_enter (scan : TableScan) (tracking : Bool) (page : Nat) (records : List Record) :
    scan.addPage tracking page records =
      scan.enter (.ofVerdicts (pageVerdicts scan.row.spec records))
        (if tracking then pageGaps scan.row.spec page records else []) :=
  scan.foldl_add_eq_enter tracking page (records.zipIdx 1)

theorem addPage_spec (scan : TableScan) (tracking : Bool) (page : Nat) (records : List Record) :
    (scan.addPage tracking page records).row.spec = scan.row.spec := by
  rw [addPage_eq_enter]
  rfl

end TableScan
end SeedCoverage.Remote

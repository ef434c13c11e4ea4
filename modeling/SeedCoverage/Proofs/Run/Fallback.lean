import SeedCoverage.Proofs.Remote.Arrival
import SeedCoverage.Run.Report

/-! A run whose store fails. It is the run that leaves the store alone, but for a note in front of its
notes: of what was read before the fault nothing is left. -/
namespace SeedCoverage.Run

open Text Files Remote

/-- The report with a note in front of its notes. -/
def noted (note : Text) (report : SeedCoverage.Report) : SeedCoverage.Report :=
  { report with notes := note :: report.notes }

/-- The result of the report with a note in front of its notes. -/
def Result.noted (options : Render.Options) (note : Text) (result : Result) : Result :=
  { result with
    report := Run.noted note result.report
    rendered := Render.report options (Run.noted note result.report) }

/-- The request that leaves the store alone. -/
def Request.unaided (request : Request) : Request := { request with offline := true }

variable {tree : FileTree} {store : Store} {request : Request} {config : Config} {catalog : Catalog}
  {client : Client} {fault : Fault} {bare : SeedCoverage.Report}

theorem filesReport_notes (counted : filesReport tree request config catalog = .ok bare) :
    bare.notes = [] := by
  unfold filesReport at counted
  cases found : Corpus.discover tree config.extensions request.paths with
  | error failure =>
    rw [found] at counted
    cases counted
  | ok files =>
    rw [found] at counted
    simp only [bind, Except.bind] at counted
    split at counted
    · split at counted
      · cases counted
      · cases counted
        rfl
    · cases counted
      rfl

/-- What a run makes of the numbers. -/
def present (tree : FileTree) (request : Request) (config : Config) (catalog : Catalog)
    (notes : List Text) (bare : SeedCoverage.Report) : Except Failure Result := do
  let report := bare.withNotes (notes ++ bare.summary)
  let debugOutput ← request.debugTable.mapM (debugSamples tree request config catalog)
  return {
    exitCode := exitCode report.percent request.threshold
    rendered := Render.report request.options report
    debugOutput
    report }

theorem report_present (sound : catalogOf config = .ok catalog) :
    report tree store request config =
      numbers tree store request config catalog >>= fun (bare, notes) =>
        present tree request config catalog notes bare := by
  rw [report, sound]
  rfl

theorem present_noted (silent : bare.notes = []) (note : Text) :
    present tree request config catalog [note] bare =
      (present tree request config catalog [] bare).map (Result.noted request.options note) := by
  have notes : bare.withNotes ([note] ++ bare.summary) =
      noted note (bare.withNotes ([] ++ bare.summary)) := by
    simp [SeedCoverage.Report.withNotes, noted, silent]
  unfold present
  cases request.debugTable.mapM (debugSamples tree request config catalog) with
  | error failure => rfl
  | ok sampled =>
    simp only [notes]
    rfl

/-- Without the store the numbers are those of the files, whatever the store is. -/
theorem numbers_unaided :
    numbers tree store request.unaided config catalog =
      (filesReport tree request config catalog).map fun bare => (bare, []) := rfl

theorem numbers_failed (chosen : client? request config = some client)
    (fails : store client catalog request.options.showGaps = .error fault) :
    numbers tree store request config catalog =
      (filesReport tree request config catalog).map fun bare => (bare, [fallbackNote fault]) := by
  simp only [numbers, chosen, fails]

/-- A run whose store fails is the run without the store, with the fault in front of its notes: it fails
where that one fails, and else has its exit code, its samples and its numbers. -/
theorem report_failed_store (chosen : client? request config = some client)
    (sound : catalogOf config = .ok catalog)
    (fails : store client catalog request.options.showGaps = .error fault) (other : Store) :
    report tree store request config =
      (report tree other request.unaided config).map
        (Result.noted request.options (fallbackNote fault)) := by
  rw [report_present sound, report_present sound, numbers_failed chosen fails, numbers_unaided]
  cases counted : filesReport tree request config catalog with
  | error failure => rfl
  | ok bare => exact present_noted (filesReport_notes counted) (fallbackNote fault)

/-- One record of every table, and then a refusal to go on. -/
def brokenOff : Servers := fun _ requests =>
  if requests.length = 1 then .answer 200 (Utf8.encode "[\x7b\x7d]") else .answer 401 []

/-- A store that is read table by table, with up to three pages each. -/
def storeOf (servers : Servers) : Store := fun client catalog tracking =>
  ((fetchAll servers client catalog tracking 3).map reportAll).getD (.error .malformedBody)

theorem storeOf_eq {servers : Servers} {tracking : Bool} {results : catalog.Id → Except Fault TableScan}
    (read : ReadAll servers client tracking 3 results) :
    storeOf servers client catalog tracking = collect results catalog.ids := by
  rw [storeOf, read.report, Option.getD_some]

/-- A store that does not answer. -/
def silentStore : Store := fun client catalog _ => readSilence client catalog

def seedTree : FileTree where
  root := [("seed.sql", .file (Utf8.encode "INSERT INTO items (name) VALUES ('Sword');"))]

def seedRequest : Request where
  paths := ["seed.sql"]
  options := { format := .markdown }
  url := some "http://[::1]:8000/"
  key := some "key"

theorem seedTree_counted : (report seedTree silentStore seedRequest.unaided {}).isOk = true := by
  have sound : catalogOf {} = .ok .builtin := rfl
  have found : Corpus.discover seedTree ({} : Config).extensions seedRequest.paths =
      .ok ["seed.sql"] := by cbv
  have counted : ∃ bare, filesReport seedTree seedRequest {} .builtin = .ok bare := by
    rw [filesReport, found]
    simp only [bind, Except.bind]
    split
    · exact ⟨_, rfl⟩
    · exact ⟨_, rfl⟩
  obtain ⟨bare, counted⟩ := counted
  rw [report_present sound, numbers_unaided, counted]
  rfl

theorem report_brokenStore :
    client? seedRequest {} = some localClient ∧ catalogOf {} = .ok .builtin ∧
      storeOf brokenOff localClient .builtin false = .error (.refused 401 "items" []) ∧
        report seedTree (storeOf brokenOff) seedRequest {} =
          (report seedTree silentStore seedRequest.unaided {}).map
            (Result.noted seedRequest.options (fallbackNote (.refused 401 "items" []))) ∧
          (report seedTree silentStore seedRequest.unaided {}).isOk = true := by
  have chosen : client? seedRequest {} = some localClient := by decide +kernel
  have sound : catalogOf {} = .ok .builtin := rfl
  have read : ReadAll brokenOff localClient false 3 fun id : Catalog.builtin.Id =>
      .error (.refused 401 (Catalog.builtin.get id).name []) := by
    unfold ReadAll
    decide +kernel
  have fails : storeOf brokenOff localClient .builtin false = .error (.refused 401 "items" []) := by
    rw [storeOf_eq read]
    rfl
  exact ⟨chosen, sound, fails, report_failed_store chosen sound fails silentStore, seedTree_counted⟩

end SeedCoverage.Run

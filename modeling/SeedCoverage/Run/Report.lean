import SeedCoverage.Config.Basic
import SeedCoverage.Corpus.Discovery
import SeedCoverage.Corpus.Scan
import SeedCoverage.Remote.Collect
import SeedCoverage.Render.Format

/-! One run: the numbers come from the remote store if one is configured and does its part, or else
from SQL files. A store that fails leaves nothing behind but a note. -/
namespace SeedCoverage.Run

open Text Files

/-- What a run is asked for. -/
structure Request where
  paths : List Text
  options : Render.Options
  /-- The table whose statements are sampled. -/
  debugTable : Option Text := none
  /-- How many statements, and rows of each, a sample has at most. -/
  debugLimit : Nat := 5
  /-- Leaves the remote store alone. -/
  offline : Bool := false
  url : Option Text := none
  key : Option Text := none
  /-- The percentage below which the run does not pass. -/
  threshold : Option Nat := none
  /-- Does not put up with unreadable files. -/
  strict : Bool := false
  deriving DecidableEq, Repr

/-- What a run gives. -/
structure Result where
  exitCode : Nat
  rendered : Text
  debugOutput : Option Text
  report : Report
  deriving DecidableEq, Repr

/-- Reads a catalog's tables from a store, with gaps or without. -/
abbrev Store := Remote.Client → Catalog → Bool → Except Remote.Fault Report

/-- The settings of the remote store; what is asked for precedes what is configured. -/
def Request.remote (request : Request) (config : Config) : RemoteSettings :=
  { config.remote with
    url := request.url.or config.remote.url
    key := request.key.or config.remote.key }

/-- The client of a run, if it may use one and there is enough to make one of. -/
def client? (request : Request) (config : Config) : Option Remote.Client :=
  if request.offline then none else Remote.Client.ofSettings? (request.remote config) config.retry

/-- The note on a store that failed. -/
def fallbackNote (fault : Remote.Fault) : Text :=
  "Remote data store unavailable (" ++ fault.message ++ "); coverage computed from SQL files"

/-- The report of the SQL files. -/
def filesReport (tree : FileTree) (request : Request) (config : Config) (catalog : Catalog) :
    Except Failure Report := do
  let files ← Corpus.discover tree config.extensions request.paths
  let report := Corpus.report tree catalog request.options.showGaps files
  match report.failed with
  | first :: _ =>
    if request.strict then throw (.corpus first "file could not be read (--strict)")
    return report
  | [] => return report

/-- The report of the store, or else of the files, and the note that says so. -/
def numbers (tree : FileTree) (store : Store) (request : Request) (config : Config)
    (catalog : Catalog) : Except Failure (Report × List Text) :=
  match client? request config with
  | none => (filesReport tree request config catalog).map fun report => (report, [])
  | some client =>
    match store client catalog request.options.showGaps with
    | .ok report => .ok (report, [])
    | .error fault =>
      (filesReport tree request config catalog).map fun report => (report, [fallbackNote fault])

/-- The sampled statements of a table. -/
def debugSamples (tree : FileTree) (request : Request) (config : Config) (catalog : Catalog)
    (name : Text) : Except Failure Text := do
  match catalog.lookup name with
  | none => throw (.config ("Unknown table '" ++ name ++ "' for --debug-table"))
  | some id =>
    let table := (catalog.get id).name
    let files ← Corpus.discover tree config.extensions request.paths
    return Render.samples table (Corpus.sample tree catalog table request.debugLimit files)
      request.debugLimit

def catalogOf (config : Config) : Except Failure Catalog :=
  config.catalog.mapError fun fault => .catalog fault.message

def report (tree : FileTree) (store : Store) (request : Request) (config : Config) :
    Except Failure Result := do
  let catalog ← catalogOf config
  let (bare, notes) ← numbers tree store request config catalog
  let report := bare.withNotes (notes ++ bare.summary)
  let debugOutput ← request.debugTable.mapM (debugSamples tree request config catalog)
  return {
    exitCode := exitCode report.percent request.threshold
    rendered := Render.report request.options report
    debugOutput
    report }

/-- The list of the tracked tables. -/
def tables (options : Render.Options) (config : Config) : Except Failure Text := do
  return Render.catalog options (← catalogOf config)

end SeedCoverage.Run

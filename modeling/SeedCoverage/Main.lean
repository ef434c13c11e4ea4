import SeedCoverage.CommandLine.Program
import SeedCoverage.Remote.Store

/-! The executable. It takes a picture of the files that a command line names, asks the library what
to do, and does it. It has no network: of a remote store nothing is ever heard. -/
namespace SeedCoverage.Main

open Text Files

/-- What has been looked at, and the entries found there. -/
structure Picture where
  seen : List Text := []
  root : Entries := []

/-- The names from the root down to an absolute path. -/
def locationOf (path : Text) : Location := (parts path).filter fun part => !part.isEmpty

/-- The directory of a path, and the name in it. -/
def splitName (path : Text) : Text × Text :=
  ((path.reverse.dropWhile (· != '/')).reverse, (path.reverse.takeWhile (· != '/')).reverse)

/-- A target that no link can have: it leads nowhere. -/
def nowhere : Text := ['\x00']

/-- Adds what is found under a name in a directory: a file, a directory with all below it, or a link
and what it leads to. -/
partial def look (picture : Picture) (directory name : Text) : IO Picture := do
  let path := join directory name
  if picture.seen.elem path then return picture
  let seen := path :: picture.seen
  let entry : IO.FS.DirEntry := ⟨String.ofList directory, String.ofList name⟩
  let put (entry : Entry) : Picture := ⟨seen, putAt entry (locationOf path) picture.root⟩
  try
    match (← entry.path.symlinkMetadata).type with
    | .dir =>
      let mut picture := put (.directory [])
      for inner in ← entry.path.readDir do
        picture ← look picture path inner.fileName.toList
      return picture
    | .symlink =>
      match ← (IO.FS.realPath entry.path).toBaseIO with
      | .error _ => return put (.link nowhere)
      | .ok real =>
        let target := real.toString.toList
        let (directory, name) := splitName target
        look (put (.link target)) directory name
    | _ => return put (.file (← IO.FS.readBinFile entry.path).toList)
  catch _ => return ⟨seen, picture.root⟩

/-- Adds what a path leads to, and the way there. -/
def lookAt (current : Text) (picture : Picture) (path : Text) : IO Picture := do
  let path := join current path
  match ← (IO.FS.realPath (String.ofList path)).toBaseIO with
  | .error _ => return picture
  | .ok real =>
    let target := real.toString.toList
    let (directory, name) := splitName target
    let picture ← look picture directory name
    let place := locationOf path
    if place == locationOf target || place.any (fun part => part == ['.', '.']) then return picture
    else return { picture with root := putAt (.link target) place picture.root }

/-- The directory that a file is written in, with no more than the name of the file in it. -/
def lookForOutput (current : Text) (picture : Picture) (path : Text) : IO Picture := do
  let path := join current path
  let (directory, name) := splitName path
  match ← (IO.FS.realPath (String.ofList directory)).toBaseIO with
  | .error _ => return picture
  | .ok real =>
    let place := locationOf real.toString.toList
    let picture := match entryAt? picture.root place with
      | some _ => picture
      | none => { picture with root := putAt (.directory []) place picture.root }
    if ← (entryOf directory name).path.pathExists then look picture directory name
    else return picture
where
  /-- A name in a directory, whatever is there. -/
  entryOf (directory name : Text) : IO.FS.DirEntry :=
    ⟨String.ofList directory, String.ofList name⟩

/-- The files that a run may read. -/
def takePicture (current : Text) (environment : Environment)
    (invocation : CommandLine.Invocation) : IO FileTree := do
  let settings := invocation.settings
  let homePaths := environment.home.toList.map Config.homePath
  let reportPaths := match invocation.command with
    | .report => settings.reportPaths
    | .tables => []
  let start : Picture := { root := putAt (.directory []) (locationOf current) [] }
  let picture ← (settings.config.toList ++ [Config.localPath] ++ homePaths ++ reportPaths).foldlM
    (lookAt current) start
  let picture ← settings.output.toList.foldlM (lookForOutput current) picture
  return ⟨picture.root, locationOf current⟩

/-- A variable of the environment. -/
def lookUp (name : String) : IO (Option Text) := do
  return (← IO.getEnv name).map String.toList

def usage : String :=
  "Usage: content-coverage [-v] [-c FILE] COMMAND\n" ++
  "\n" ++
  "Commands:\n" ++
  "  report [PATH]...  compute per-table coverage\n" ++
  "  tables            list the tracked tables\n"

/-- What is said on a command line that says nothing to do, and the exit code. -/
def sayUsage : CommandLine.UsageFault → IO UInt32
  | .help => do
    IO.print usage
    return 0
  | .version => do
    IO.println "content-coverage 0.3.0"
    return 0
  | _ => do
    IO.eprint usage
    return 2

/-- Writes the file of an outcome, and says how that went. -/
def writeFile (outcome : CommandLine.Outcome) : IO CommandLine.Outcome := do
  match outcome.file with
  | none => return outcome
  | some (path, content) =>
    match ← (IO.FS.writeFile (String.ofList path) (String.ofList content)).toBaseIO with
    | .ok _ => return outcome
    | .error fault => return .ofFailure outcome.stderr (.writing path fault.toString.toList)

def run (invocation : CommandLine.Invocation) : IO UInt32 := do
  let environment : Environment := {
    home := ← lookUp "HOME"
    url := ← lookUp "CONTENT_DB_URL"
    key := ← lookUp "CONTENT_DB_KEY" }
  let wishes : CommandLine.ColorWishes := {
    forced := ← lookUp "CLICOLOR_FORCE"
    refused := ← lookUp "NO_COLOR"
    usual := ← lookUp "CLICOLOR" }
  let colored := wishes.colored (← (← IO.getStdout).isTty)
  let tree ← takePicture (← IO.currentDir).toString.toList environment invocation
  let store : Run.Store := fun client catalog _ => Remote.readSilence client catalog
  let outcome ← writeFile (CommandLine.run tree environment store colored invocation)
  IO.eprint (String.ofList outcome.stderr)
  IO.print (String.ofList outcome.stdout)
  return outcome.exitCode.toUInt32

end SeedCoverage.Main

def main (arguments : List String) : IO UInt32 :=
  match SeedCoverage.CommandLine.parse (arguments.map String.toList) with
  | .ok invocation => SeedCoverage.Main.run invocation
  | .error fault => SeedCoverage.Main.sayUsage fault

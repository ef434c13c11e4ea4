import SeedCoverage.CommandLine.Arguments
import SeedCoverage.Config.Sources
import SeedCoverage.Run.Report

/-! The program: what it prints, writes and returns for a command line, in a tree of files. -/
namespace SeedCoverage.CommandLine

open Text Files

/-- What a program leaves behind. -/
structure Outcome where
  exitCode : Nat
  stdout : Text := []
  stderr : Text := []
  /-- The path and the text of a file that is written. -/
  file : Option (Text × Text) := none
  deriving DecidableEq, Repr

/-- The files after the program has run. -/
def Outcome.treeAfter (outcome : Outcome) (tree : FileTree) : FileTree :=
  match outcome.file with
  | none => tree
  | some (path, content) => (tree.writeText path content).toOption.getD tree

/-- What the environment says of colours, each by a variable that may be set. -/
structure ColorWishes where
  forced : Option Text := none
  refused : Option Text := none
  usual : Option Text := none
  deriving DecidableEq, Repr

/-- A variable that is set to something else than zero. -/
def isWished (wish : Option Text) : Bool := wish.any fun value => value != ['0']

/-- Colours are shown if they are forced, or on a terminal unless they are refused. -/
def ColorWishes.colored (wishes : ColorWishes) (terminal : Bool) : Bool :=
  isWished wishes.forced ||
    (wishes.refused.isNone && terminal && (wishes.usual.isNone || isWished wishes.usual))

/-- How much is logged for a number of verbose switches. -/
def logLevel (verbose : Nat) : Text :=
  match verbose with
  | 0 => "warn"
  | 1 => "info"
  | _ => "debug"

/-- The current directory is scanned when no path is given. -/
def usualPaths : List Text := ["."]

def Settings.reportPaths (settings : Settings) : List Text :=
  if settings.paths.isEmpty then usualPaths else settings.paths

/-- The format of a command; reports are in Markdown and lists of tables in text if nothing else is
asked for. -/
def Invocation.format (invocation : Invocation) : Render.Format :=
  invocation.settings.format.getD (match invocation.command with
    | .report => .markdown
    | .tables => .text)

/-- How many statements and rows are sampled when no number is given. -/
def usualDebugLimit : Nat := 5

/-- What a command asks of a run. No colours go into a file. -/
def Invocation.request (invocation : Invocation) (colored : Bool) : Run.Request :=
  let settings := invocation.settings
  { paths := settings.reportPaths
    options := {
      format := invocation.format
      colored := colored && !settings.noColor && settings.output.isNone
      showGaps := settings.missing }
    debugTable := settings.debugTable
    debugLimit := settings.debugLimit.getD usualDebugLimit
    offline := settings.offline
    url := settings.remoteUrl
    key := settings.remoteKey
    threshold := settings.failUnder
    strict := settings.strict }

/-- The exit code of a failure. -/
def failureCode : Nat := 2

def Outcome.ofFailure (stderr : Text) (failure : Failure) : Outcome :=
  { exitCode := failureCode, stderr := stderr ++ Text.lines ["Error: " ++ failure.message] }

/-- A report, to a file or to the standard output. -/
def runReport (tree : FileTree) (store : Run.Store) (colored : Bool) (config : Config)
    (invocation : Invocation) : Outcome :=
  match Run.report tree store (invocation.request colored) config with
  | .error failure => .ofFailure [] failure
  | .ok result =>
    let stderr := Text.lines result.debugOutput.toList
    match invocation.settings.output with
    | none => { exitCode := result.exitCode, stdout := Text.lines [result.rendered], stderr }
    | some path =>
      match tree.writeText path result.rendered with
      | .ok _ => { exitCode := result.exitCode, stderr, file := some (path, result.rendered) }
      | .error fault => .ofFailure stderr (.writing path fault.message)

def runTables (colored : Bool) (config : Config) (invocation : Invocation) : Outcome :=
  let options : Render.Options := {
    format := invocation.format
    colored := colored && !invocation.settings.noColor }
  match Run.tables options config with
  | .error failure => .ofFailure [] failure
  | .ok rendered => { exitCode := 0, stdout := Text.lines [rendered] }

/-- Runs a command; `colored` says whether the terminal is to show colours. -/
def run (tree : FileTree) (environment : Environment) (store : Run.Store) (colored : Bool)
    (invocation : Invocation) : Outcome :=
  match Config.load tree environment invocation.settings.config with
  | .error failure => .ofFailure [] failure
  | .ok config =>
    match invocation.command with
    | .report => runReport tree store colored config invocation
    | .tables => runTables colored config invocation

end SeedCoverage.CommandLine

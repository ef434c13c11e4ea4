import SeedCoverage.CommandLine.Options

/-! Reading the arguments of the command line: options of the program, the name of a command, and
what belongs to the command. A value that stands in an argument of its own is looked at only when
the next option or path comes, or the arguments end. -/
namespace SeedCoverage.CommandLine

open Text

/-- What has been read but not looked at. -/
inductive Pending where
  | nothing
  /-- An option, and its value if that has come. -/
  | setting (setting : Setting) (value : Option Text)
  | paths (paths : List Text)
  deriving DecidableEq, Repr

/-- Reading between two arguments. -/
structure Draft where
  settings : Settings := {}
  pending : Pending := .nothing
  /-- Two dashes came: all that follows are paths. -/
  pathsOnly : Bool := false
  deriving DecidableEq, Repr

namespace Draft

/-- An option whose value comes next. -/
def awaited? (draft : Draft) : Option Setting :=
  match draft.pending with
  | .setting setting none => some setting
  | _ => none

/-- The settings once what is pending has been looked at. -/
def settle (draft : Draft) : Except UsageFault Settings :=
  match draft.pending with
  | .nothing => .ok draft.settings
  | .setting _ none => .error .invalidValue
  | .setting setting (some value) => draft.settings.set setting value
  | .paths paths =>
    if paths.any List.isEmpty then .error .invalidValue
    else .ok { draft.settings with paths := draft.settings.paths ++ paths }

/-- Goes on with certain settings, and nothing pending. -/
def resume (draft : Draft) (settings : Settings) : Draft :=
  { draft with settings, pending := .nothing }

/-- An option with an attached value, or one whose value is still to come. -/
def setting (draft : Draft) (setting : Setting) (attached : Option Text) :
    Except UsageFault Draft := do
  let settings ← draft.settle
  match attached with
  | some value => return draft.resume (← settings.set setting value)
  | none => return { draft.resume settings with pending := .setting setting none }

def switch (draft : Draft) (switch : Switch) : Except UsageFault Draft := do
  let settings ← draft.settle
  return draft.resume (← settings.turnOn switch)

/-- An argument behind two dashes; what stands behind an equals sign is a value. -/
def long (level : Level) (draft : Draft) (body : Text) : Except UsageFault Draft :=
  let name := body.takeWhile (· != '=')
  let attached := (body.drop name.length).tail?
  match level.long? name with
  | none => .error .unknownArgument
  | some (.setting setting) => draft.setting setting attached
  | some (.switch switch) =>
    if attached.isSome then .error .unexpectedValue else draft.switch switch

/-- The letters behind one dash: switches, up to an option that takes the rest as its value. -/
def short (level : Level) (draft : Draft) : Text → Except UsageFault Draft
  | [] => .ok draft
  | letter :: rest =>
    match level.short? letter with
    | none => .error .unknownArgument
    | some (.setting setting) =>
      draft.setting setting (match rest with
        | [] => none
        | '=' :: value => some value
        | value => some value)
    | some (.switch switch) => do short level (← draft.switch switch) rest

/-- A path, in the one command that has paths. -/
def path (level : Level) (draft : Draft) (text : Text) : Except UsageFault Draft :=
  match level, draft.pending with
  | .report, .paths paths => .ok { draft with pending := .paths (paths ++ [text]) }
  | .report, _ => do
    let settings ← draft.settle
    return { draft.resume settings with pending := .paths [text] }
  | .tables, _ => .error .unknownArgument
  | .program, _ => .error .unknownCommand

/-- One argument. -/
def read (level : Level) (draft : Draft) (text : Text) : Except UsageFault Draft :=
  if draft.pathsOnly then draft.path level text
  else match text with
    | ['-', '-'] => .ok { draft with pathsOnly := true }
    | '-' :: '-' :: body => draft.long level body
    | '-' :: letter :: rest => draft.short level (letter :: rest)
    | _ =>
      match draft.awaited? with
      | some setting => .ok { draft with pending := .setting setting (some text) }
      | none => draft.path level text

end Draft

/-- The settings that the arguments of a command say. -/
def commandSettings (level : Level) (arguments : List Text) : Except UsageFault Settings := do
  (← arguments.foldlM (Draft.read level) {}).settle

inductive Command where
  | report
  | tables
  deriving DecidableEq, Repr

def Command.level : Command → Level
  | report => .report
  | tables => .tables

def Command.named? (name : Text) : Option Command :=
  if name = ("report" : Text) then some .report
  else if name = ("tables" : Text) then some .tables
  else none

/-- The command that asks for help on the others. -/
def helpName : Text := "help"

/-- What the arguments behind `help` lead to: help on a command, or on help itself. -/
def helpFault : List Text → UsageFault
  | [] => .help
  | [name] => if name = helpName || (Command.named? name).isSome then .help else .unknownCommand
  | _ => .unknownCommand

/-- What a command line says. -/
structure Invocation where
  command : Command
  settings : Settings
  deriving DecidableEq, Repr

/-- Settings of a command; where they say nothing of what belongs to the program too, those before
the command do. -/
def Settings.under (inner outer : Settings) : Settings :=
  { inner with
    verbose := if inner.verbose = 0 then outer.verbose else inner.verbose
    config := inner.config.or outer.config }

/-- Reads arguments up to the name of a command, and then those of the command. -/
def readProgram (draft : Draft) : List Text → Except UsageFault Invocation
  | [] => do
    let settings ← draft.settle
    throw (if settings = {} then .nothing else .missingCommand)
  | text :: rest => do
    let named := Command.named? text
    if draft.pathsOnly && (named.isSome || text = helpName) then throw .unknownArgument
    else if draft.pathsOnly || draft.awaited?.isSome then
      readProgram (← draft.read .program text) rest
    else if text = helpName then throw (helpFault rest)
    else match named with
      | none => readProgram (← draft.read .program text) rest
      | some command =>
        let inner ← commandSettings command.level rest
        return ⟨command, inner.under (← draft.settle)⟩

def parse (arguments : List Text) : Except UsageFault Invocation := readProgram {} arguments

end SeedCoverage.CommandLine

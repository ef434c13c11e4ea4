import SeedCoverage.Render.Format

/-! The options of the command line and what their values may be. -/
namespace SeedCoverage.CommandLine

open Text

/-- Why arguments say nothing that can be done; asking for help is one of the reasons. -/
inductive UsageFault where
  | help
  | version
  /-- There are no arguments. -/
  | nothing
  | unknownCommand
  | missingCommand
  | unknownArgument
  /-- A value is missing, empty, or not one of those that can be chosen. -/
  | invalidValue
  /-- A value is no number, or not in its range. -/
  | invalidNumber
  /-- A value is given to a switch. -/
  | unexpectedValue
  /-- An option or switch that counts once is given again. -/
  | repeated
  deriving DecidableEq, Repr

/-- Options without a value. -/
inductive Switch where
  | verbose
  | help
  | version
  | missing
  | offline
  | strict
  | noColor
  deriving DecidableEq, Repr

/-- Options with a value. -/
inductive Setting where
  | config
  | format
  | output
  | debugTable
  | debugLimit
  | remoteUrl
  | remoteKey
  | failUnder
  deriving DecidableEq, Repr

inductive Flag where
  | switch (switch : Switch)
  | setting (setting : Setting)
  deriving DecidableEq, Repr

/-- The name behind two dashes. -/
def Flag.long : Flag → Text
  | switch .verbose => "verbose"
  | switch .help => "help"
  | switch .version => "version"
  | switch .missing => "missing"
  | switch .offline => "offline"
  | switch .strict => "strict"
  | switch .noColor => "no-color"
  | setting .config => "config"
  | setting .format => "format"
  | setting .output => "output"
  | setting .debugTable => "debug-table"
  | setting .debugLimit => "debug-limit"
  | setting .remoteUrl => "remote-url"
  | setting .remoteKey => "remote-key"
  | setting .failUnder => "fail-under"

/-- The letter behind one dash. -/
def Flag.short? : Flag → Option Char
  | switch .verbose => some 'v'
  | switch .help => some 'h'
  | switch .version => some 'V'
  | setting .config => some 'c'
  | setting .format => some 'f'
  | setting .output => some 'o'
  | _ => none

/-- The whole command line up to the name of a command, or what belongs to a command. -/
inductive Level where
  | program
  | report
  | tables
  deriving DecidableEq, Repr

namespace Level

def flags : Level → List Flag
  | program => [.switch .verbose, .setting .config, .switch .help, .switch .version]
  | report => [.switch .verbose, .setting .config, .switch .help, .switch .missing,
      .setting .debugTable, .setting .debugLimit, .setting .format, .setting .output,
      .switch .offline, .setting .remoteUrl, .setting .remoteKey, .setting .failUnder,
      .switch .strict, .switch .noColor]
  | tables => [.switch .verbose, .setting .config, .switch .help, .setting .format,
      .switch .noColor]

def long? (level : Level) (name : Text) : Option Flag :=
  level.flags.find? fun flag => flag.long == name

def short? (level : Level) (letter : Char) : Option Flag :=
  level.flags.find? fun flag => flag.short? == some letter

end Level

/-- What the arguments of one level have said so far. -/
structure Settings where
  verbose : Nat := 0
  config : Option Text := none
  format : Option Render.Format := none
  output : Option Text := none
  debugTable : Option Text := none
  debugLimit : Option Nat := none
  remoteUrl : Option Text := none
  remoteKey : Option Text := none
  failUnder : Option Nat := none
  missing : Bool := false
  offline : Bool := false
  strict : Bool := false
  noColor : Bool := false
  paths : List Text := []
  deriving DecidableEq, Repr

/-- Digits, behind a plus sign or none. -/
def natural? (text : Text) : Option Nat :=
  let digits := if text.head? = some '+' then text.tail else text
  if digits.isEmpty || !digits.all Char.isDigit then none else some (digitsValue 10 digits)

/-- A whole number up to 100; a zero may have any sign. -/
def percentage? (text : Text) : Option Nat :=
  match text with
  | '-' :: digits =>
    if digits.head? = some '+' then none else (natural? digits).filter (· == 0)
  | _ => (natural? text).filter (· ≤ 100)

/-- The value of an option that has none yet. -/
def once {α : Type} (present : Bool) (value : Except UsageFault α) : Except UsageFault α :=
  if present then .error .repeated else value

def nonempty (text : Text) : Except UsageFault Text :=
  if text.isEmpty then .error .invalidValue else .ok text

def orFault {α : Type} (fault : UsageFault) : Option α → Except UsageFault α
  | some value => .ok value
  | none => .error fault

namespace Settings

/-- Gives a value to an option. -/
def set (settings : Settings) (setting : Setting) (value : Text) : Except UsageFault Settings := do
  match setting with
  | .config =>
    let path ← once settings.config.isSome (nonempty value)
    return { settings with config := some path }
  | .format =>
    let format ← once settings.format.isSome (orFault .invalidValue (Render.Format.named? value))
    return { settings with format := some format }
  | .output =>
    let path ← once settings.output.isSome (nonempty value)
    return { settings with output := some path }
  | .debugTable =>
    let table ← once settings.debugTable.isSome (.ok value)
    return { settings with debugTable := some table }
  | .debugLimit =>
    let limit ← once settings.debugLimit.isSome
      (orFault .invalidNumber ((natural? value).filter (· < Nat.pow 2 64)))
    return { settings with debugLimit := some limit }
  | .remoteUrl =>
    let url ← once settings.remoteUrl.isSome (.ok value)
    return { settings with remoteUrl := some url }
  | .remoteKey =>
    let key ← once settings.remoteKey.isSome (.ok value)
    return { settings with remoteKey := some key }
  | .failUnder =>
    let percent ← once settings.failUnder.isSome (orFault .invalidNumber (percentage? value))
    return { settings with failUnder := some percent }

/-- Turns a switch on. How often the verbose one is turned on counts, up to 255 times. -/
def turnOn (settings : Settings) (switch : Switch) : Except UsageFault Settings :=
  match switch with
  | .verbose => .ok { settings with verbose := min (settings.verbose + 1) 255 }
  | .help => .error .help
  | .version => .error .version
  | .missing => once settings.missing (.ok { settings with missing := true })
  | .offline => once settings.offline (.ok { settings with offline := true })
  | .strict => once settings.strict (.ok { settings with strict := true })
  | .noColor => once settings.noColor (.ok { settings with noColor := true })

end Settings
end SeedCoverage.CommandLine

import SeedCoverage.Config.Basic
import SeedCoverage.Failure
import SeedCoverage.Toml.Reader

/-! Reading a configuration from TOML. Keys that mean nothing are passed over. A list may stand for
a table: its items are the values of the keys in their order. -/
namespace SeedCoverage

namespace Toml

/-- The value of a key. -/
def member? (members : List (Text × Toml)) (name : Text) : Option Toml :=
  (members.find? fun member => member.1 == name).map Prod.snd

/-- The members of a table with these keys. A list stands for one if it has at least `least` items,
and a date for one without members. -/
def fields? (keys : List Text) (least : Nat) : Toml → Option (List (Text × Toml))
  | table members => some members
  | array items => if items.length < least then none else some (keys.zip items)
  | dateTime => some []
  | _ => none

def text? : Toml → Option Text
  | string content => some content
  | _ => none

def texts? : Toml → Option (List Text)
  | array items => items.mapM text?
  | _ => none

/-- A whole number from zero up to, and without, `bound`. -/
def natural? (bound : Nat) : Toml → Option Nat
  | integer value => if 0 ≤ value && value < bound then some value.toNat else none
  | _ => none

/-- A float, or a whole number of 64 bits with or without a sign bit. -/
def double? : Toml → Option Double
  | float value => some value
  | integer value =>
    if -(Nat.pow 2 63 : Int) ≤ value && value < Nat.pow 2 64 then some (.ofInt value) else none
  | _ => none

/-- The value of a key that must be there. -/
def required? {α : Type} (read : Toml → Option α) (members : List (Text × Toml)) (name : Text) :
    Option α :=
  (member? members name).bind read

/-- The value of a key, or `default` if it is not there. -/
def withDefault? {α : Type} (default : α) (read : Toml → Option α) (members : List (Text × Toml))
    (name : Text) : Option α :=
  match member? members name with
  | none => some default
  | some value => read value

def optionalText? (members : List (Text × Toml)) (name : Text) : Option (Option Text) :=
  withDefault? none (fun value => (text? value).map some) members name

end Toml

open Toml

def RemoteSettings.ofToml? (value : Toml) : Option RemoteSettings := do
  let members ← fields? ["url", "api_key", "page_size"] 2 value
  return {
    url := ← optionalText? members "url"
    key := ← optionalText? members "api_key"
    pageSize := ← withDefault? 1000 (natural? (Nat.pow 2 64)) members "page_size" }

def RetryPolicy.ofToml? (value : Toml) : Option RetryPolicy := do
  let members ← fields? ["max_retries", "initial_delay_ms", "max_delay_ms", "backoff_factor"] 4 value
  return {
    retries := ← required? (natural? (Nat.pow 2 32)) members "max_retries"
    firstDelay := ← required? (natural? (Nat.pow 2 64)) members "initial_delay_ms"
    longestDelay := ← required? (natural? (Nat.pow 2 64)) members "max_delay_ms"
    factor := ← required? double? members "backoff_factor" }

/-- The extensions in the value of `scan`. -/
def extensionsOfToml? (value : Toml) : Option (List Text) := do
  required? texts? (← fields? ["extensions"] 1 value) "extensions"

def TableSpec.ofToml? (value : Toml) : Option TableSpec := do
  let members ← fields? ["label", "table", "required", "rows_follow"] 3 value
  return {
    label := ← required? text? members "label"
    name := ← required? text? members "table"
    required := ← required? texts? members "required"
    follows := ← optionalText? members "rows_follow" }

def tablesOfToml? : Toml → Option (List TableSpec)
  | .array items => items.mapM TableSpec.ofToml?
  | _ => none

namespace Config

/-- A configuration; what a document does not say stays as it is by default. -/
def ofToml? (members : List (Text × Toml)) : Option Config := do
  return {
    remote := ← withDefault? {} RemoteSettings.ofToml? members "remote"
    retry := ← withDefault? {} RetryPolicy.ofToml? members "retry"
    extensions := ← withDefault? usualExtensions extensionsOfToml? members "scan"
    tables := ← withDefault? [] tablesOfToml? members "tables" }

/-- The configuration that a document says. -/
def parse (document : Text) : Except Failure Config :=
  match (Toml.parse? document).bind ofToml? with
  | some config => .ok config
  | none => .error (.malformedConfig document)

end Config
end SeedCoverage

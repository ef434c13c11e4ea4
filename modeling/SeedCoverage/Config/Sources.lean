import SeedCoverage.Config.Reader
import SeedCoverage.Files.Tree

/-! Where a configuration comes from: the file that is asked for; or else the one in the current
directory, or else the one in the home directory. The environment decides about the remote store. -/
namespace SeedCoverage

open Files

/-- What the environment of a run says. -/
structure Environment where
  home : Option Text := none
  url : Option Text := none
  key : Option Text := none
  deriving DecidableEq, Repr

namespace Config

/-- The configuration in a file. -/
def ofFile (tree : FileTree) (path : Text) : Except Failure Config :=
  match tree.readText path with
  | .ok document => parse document
  | .error fault => .error (.reading path fault.message)

/-- The configuration in a file if there is one, or else `default`. -/
def ofFileOr (tree : FileTree) (path : Text) (default : Config) : Except Failure Config :=
  if tree.leads path then ofFile tree path else .ok default

/-- The configuration file in a home directory. -/
def homePath (home : Text) : Text :=
  join (join (join home ".config") "content-coverage") "config.toml"

def localPath : Text := ".content-coverage.toml"

/-- The configuration in the usual places. The one in the home directory is read first, and it must
be sound even where the other one decides. -/
def discover (tree : FileTree) (home : Option Text) : Except Failure Config := do
  let config ← match home with
    | some home => ofFileOr tree (homePath home) {}
    | none => .ok {}
  ofFileOr tree localPath config

/-- The configuration with the remote store of the environment. -/
def withEnvironment (config : Config) (environment : Environment) : Config :=
  { config with remote := { config.remote with
    url := environment.url.or config.remote.url
    key := environment.key.or config.remote.key } }

/-- The configuration of a run; `explicit` is the file that is asked for. -/
def load (tree : FileTree) (environment : Environment) (explicit : Option Text) :
    Except Failure Config := do
  let config ← match explicit with
    | some path => ofFile tree path
    | none => discover tree environment.home
  return config.withEnvironment environment

end Config
end SeedCoverage

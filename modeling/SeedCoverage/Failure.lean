import SeedCoverage.Text.Basic

/-! Why a run comes to nothing, and what is said about it. -/
namespace SeedCoverage

/-- A failure, with what is known about it. -/
inductive Failure where
  /-- A file that has to be read cannot be. -/
  | reading (path reason : Text)
  /-- The report cannot be written to its file. -/
  | writing (path reason : Text)
  /-- The files below a path cannot be listed, or must be readable and are not. -/
  | corpus (path reason : Text)
  | catalog (reason : Text)
  | config (reason : Text)
  /-- A document is no configuration. It is part of the failure because what is wrong in it, which the
  message leaves out, depends on it alone. -/
  | malformedConfig (document : Text)
  | remote (reason : Text)
  deriving DecidableEq, Repr

/-- Who is to act on a failure. -/
inductive FailureKind where
  /-- The caller: what was asked for cannot be done. -/
  | request
  /-- Nobody in particular: the machine did not do its part. -/
  | internal
  /-- Another program that did not do its part. -/
  | service
  deriving DecidableEq, Repr

def FailureKind.label : FailureKind → Text
  | .request => "Bad request"
  | .internal => "Internal server error"
  | .service => "Service error"

namespace Failure

def kind : Failure → FailureKind
  | reading _ _ => .internal
  | writing _ _ => .internal
  | corpus _ _ => .request
  | catalog _ => .request
  | config _ => .request
  | malformedConfig _ => .request
  | remote _ => .service

def message : Failure → Text
  | reading path reason => "Failed to read file '" ++ path ++ "': " ++ reason
  | writing path reason => "Failed to write report to '" ++ path ++ "': " ++ reason
  | corpus path reason => "Cannot scan '" ++ path ++ "': " ++ reason
  | catalog reason => "Invalid table catalog: " ++ reason
  | config reason => reason
  | malformedConfig _ => "Invalid config file"
  | remote reason => reason

end Failure
end SeedCoverage

import SeedCoverage.Catalog
import SeedCoverage.Number.Decimal

/-! What can be configured: the remote store, how often and how long to wait for it, the extensions
of SQL files, and the tables. -/
namespace SeedCoverage

/-- A remote store. -/
structure RemoteSettings where
  url : Option Text := none
  key : Option Text := none
  pageSize : Nat := 1000
  deriving DecidableEq, Repr

/-- How often a request is made again, and the waits in milliseconds: the first one, the factor from
one to the next, and the bound. -/
structure RetryPolicy where
  retries : Nat := 3
  firstDelay : Nat := 500
  longestDelay : Nat := 10000
  factor : Double := .two
  deriving DecidableEq, Repr

/-- The delay behind another one: by the factor longer, but not longer than the policy allows. -/
def RetryPolicy.nextDelay (policy : RetryPolicy) (delay : Nat) : Nat :=
  min (policy.factor.scale delay) policy.longestDelay

/-- The extensions of SQL files where nothing else is said. -/
def usualExtensions : List Text := ["sql"]

structure Config where
  remote : RemoteSettings := {}
  retry : RetryPolicy := {}
  extensions : List Text := usualExtensions
  /-- The tracked tables; none stands for those that are built in. -/
  tables : List TableSpec := []
  deriving DecidableEq, Repr

/-- The catalog of the configured tables, or else the one that is built in. -/
def Config.catalog (config : Config) : Except CatalogFault Catalog :=
  if config.tables.isEmpty then .ok .builtin else Catalog.ofTables config.tables

end SeedCoverage

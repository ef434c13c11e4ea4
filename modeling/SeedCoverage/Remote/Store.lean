import SeedCoverage.Remote.Collect

/-! Reading a whole store. Every table is read in a session of its own. -/
namespace SeedCoverage.Remote

/-- A store is a server for every table. -/
abbrev Servers := TableSpec → Server

/-- What comes of every table, with its session, if none has more than `budget` pages. -/
def fetchAll (servers : Servers) (client : Client) (catalog : Catalog) (tracking : Bool)
    (budget : Nat) : Option (catalog.PerTable (Except Fault TableScan × Session)) :=
  (Vector.ofFn fun id : catalog.Id =>
    fetchTable (servers (catalog.get id)) client (catalog.get id) tracking budget).mapM id

/-- The report of what came of the tables, arriving in the order of the catalog. -/
def reportAll {catalog : Catalog}
    (fetched : catalog.PerTable (Except Fault TableScan × Session)) :
    Except Fault Report :=
  collect (fun id : catalog.Id => (fetched.get id).1) catalog.ids

/-- The fault of a table where nothing answers: its first request cannot be made, or is in vain. -/
def Client.unanswered (client : Client) (spec : TableSpec) : Fault :=
  match client.request spec 0 with
  | .error fault => fault
  | .ok request => .unreachable request.url

/-- What is read where nothing answers. -/
def readSilence (client : Client) (catalog : Catalog) : Except Fault Report :=
  collect (fun id => .error (client.unanswered (catalog.get id))) catalog.ids

end SeedCoverage.Remote

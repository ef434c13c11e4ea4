import SeedCoverage.Remote.Fetch

/-! A report from a remote store. The tables are read at the same time and arrive in any order; the
report has them in the order of the catalog, or the first fault that arrives is all there is. -/
namespace SeedCoverage.Remote

variable {catalog : Catalog}

/-- What has arrived, by the place of the table. -/
abbrev Arrivals (catalog : Catalog) := catalog.PerTable (Option TableScan)

/-- Takes what arrives in an order, up to the first fault. -/
def arrive (fetched : catalog.Id → Except Fault TableScan) :
    List catalog.Id → Arrivals catalog → Except Fault (Arrivals catalog)
  | [], arrivals => .ok arrivals
  | id :: rest, arrivals =>
    match fetched id with
    | .error fault => .error fault
    | .ok scan => arrive fetched rest (catalog.put arrivals id (some scan))

/-- The report of the tables that have arrived. -/
def reportOf (arrivals : Arrivals catalog) : Report :=
  let scans := arrivals.toList.filterMap id
  { source := .remote
    rows := scans.map TableScan.row
    gaps := scans.flatMap TableScan.gaps }

/-- The report of tables that arrive in a certain order. -/
def collect (fetched : catalog.Id → Except Fault TableScan) (order : List catalog.Id) :
    Except Fault Report :=
  (arrive fetched order (Vector.replicate _ none)).map reportOf

end SeedCoverage.Remote

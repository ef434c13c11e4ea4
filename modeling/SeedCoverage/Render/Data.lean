import SeedCoverage.Coverage.Report
import SeedCoverage.Json.Basic

/-! Reports and catalogs as JSON values, for JSON and YAML output. -/
namespace SeedCoverage.Render.Data

def source : DataSource → Text
  | .files => "files"
  | .remote => "remote"

def tableCount (table : TableCount) : Json := .object [
  ("label", .string table.spec.label),
  ("table", .string table.spec.name),
  ("required_fields", .texts table.spec.required),
  ("total", .ofNat table.count.total.toNat),
  ("complete", .ofNat table.count.complete.toNat)]

def gap (gap : Gap) : Json := .object [
  ("table", .string gap.table),
  ("origin", .string gap.origin),
  ("statement", .ofNat gap.statement),
  ("row", .ofNat gap.row),
  ("multiplicity", .ofNat gap.multiplicity.toNat),
  ("missing", .texts gap.fields)]

/-- The gaps are left out if there are none. -/
def report (report : Report) : Json :=
  let gaps : List (Text × Json) :=
    if report.gaps.isEmpty then [] else [("missing", .array (report.gaps.map gap))]
  .object <|
    ("source", .string (source report.source)) ::
    ("rows", .array (report.rows.map tableCount)) ::
    ("total", .ofNat report.count.total.toNat) ::
    ("complete", .ofNat report.count.complete.toNat) ::
    ("percent", .ofNat report.percent) ::
    ("statements_parsed", .ofNat report.parsed) ::
    ("statements_skipped", .ofNat report.skipped) ::
    ("rows_rejected", .ofNat report.rejected) ::
    ("files_scanned", .ofNat report.scanned) ::
    ("files_failed", .texts report.failed) ::
    ("notes", .texts report.notes) :: gaps

/-- The parent is left out if there is none. -/
def tableSpec (spec : TableSpec) : Json :=
  let parent : List (Text × Json) := match spec.follows with
    | none => []
    | some name => [("rows_follow", .string name)]
  .object <|
    ("label", .string spec.label) ::
    ("table", .string spec.name) ::
    ("required", .texts spec.required) :: parent

def catalog (tables : List TableSpec) : Json := .array (tables.map tableSpec)

end SeedCoverage.Render.Data

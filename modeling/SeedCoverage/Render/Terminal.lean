import SeedCoverage.Coverage.Report
import SeedCoverage.Render.Style

/-! Reports and catalogs as text in columns, in colour where that is asked for. -/
namespace SeedCoverage.Render.Terminal

open Text

/-- The colour of a percentage. -/
def grade (percent : Nat) : Style :=
  if 90 ≤ percent then .green else if 50 ≤ percent then .yellow else .red

def percentage (colored : Bool) (percent : Nat) : Text :=
  paint colored (grade percent) (padLeft 3 (ofNat percent) ++ ['%'])

/-- A label and two numbers in columns, then the rest of the line. -/
def columns (label complete rows rest : Text) : Text :=
  padRight 28 label ++ " " ++ padLeft 8 complete ++ " " ++ padLeft 8 rows ++ "  " ++ rest

def tableLine (colored : Bool) (table : TableCount) : Text :=
  columns table.spec.label (ofNat table.count.complete.toNat) (ofNat table.count.total.toNat)
    (percentage colored table.count.percent ++ "  [" ++ join ", " table.spec.required ++ "]")

def totalLine (colored : Bool) (report : Report) : Text :=
  columns "Total" (ofNat report.count.complete.toNat) (ofNat report.count.total.toNat)
    (percentage colored report.percent)

def gapLine (gap : Gap) : Text :=
  "  " ++ gap.table ++ " " ++ gap.origin ++ "#" ++ ofNat gap.statement ++ " row " ++ ofNat gap.row ++
    " (x" ++ ofNat gap.multiplicity.toNat ++ "): " ++ join ", " gap.fields

def report (report : Report) (colored showGaps : Bool) : Text :=
  lines ([
    paint colored .bold ("Content coverage (" ++ report.source.name ++ ")"),
    [],
    columns "Table" "Complete" "Rows" " Pct"] ++
    report.rows.map (tableLine colored) ++ [totalLine colored report] ++
    (if report.notes.isEmpty then []
      else [] :: report.notes.map fun note => paint colored .dimmed ("note: " ++ note)) ++
    if showGaps && !report.gaps.isEmpty then
      [[], paint colored .boldYellow "Missing fields:"] ++ report.gaps.map gapLine
    else [])

def catalogLine (colored : Bool) (spec : TableSpec) : Text :=
  paint colored .boldCyan spec.name ++ " (" ++ spec.label ++ "): " ++ join ", " spec.required ++
    match spec.follows with
    | none => []
    | some parent => " [follows " ++ parent ++ "]"

def catalog (tables : List TableSpec) (colored : Bool) : Text :=
  lines (tables.map (catalogLine colored))

end SeedCoverage.Render.Terminal

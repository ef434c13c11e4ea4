import SeedCoverage.Coverage.Report

/-! Reports and catalogs as markdown tables. A pipe in a cell is escaped. -/
namespace SeedCoverage.Render.Markdown

open Text

/-- The text of a cell. -/
def cell (text : Text) : Text := text.flatMap fun c => if c = '|' then ['\\', '|'] else [c]

/-- Text as code. -/
def code (text : Text) : Text := '\x60' :: text ++ ['\x60']

def fields (names : List Text) : Text := cell (join ", " names)

/-- A line of cells. -/
def row (cells : List Text) : Text := "| " ++ join " | " cells ++ " |"

def percentage (value : Nat) : Text := ofNat value ++ ['%']

def tableRow (table : TableCount) : Text :=
  row [cell table.spec.label, code table.spec.name, ofNat table.count.total.toNat,
    fields table.spec.required, ofNat table.count.complete.toNat, percentage table.count.percent]

def totalRow (report : Report) : Text :=
  let strong (text : Text) : Text := "**" ++ text ++ "**"
  "| **Total** | | " ++ strong (ofNat report.count.total.toNat) ++ " | | " ++
    strong (ofNat report.count.complete.toNat) ++ " | " ++ strong (percentage report.percent) ++ " |"

def gapRow (gap : Gap) : Text :=
  row [code gap.table, cell gap.origin, ofNat gap.statement, ofNat gap.row,
    ofNat gap.multiplicity.toNat, fields gap.fields]

def heading : List Text := [
  "# Content coverage",
  [],
  "| Label | Table | Rows | Required fields | Complete | Coverage |",
  "|-------|-------|-----:|-----------------|---------:|---------:|"]

/-- A title of its own paragraph, and what stands below it. -/
def titled (title : Text) (body : List Text) : List Text := [] :: title :: [] :: body

def noteLines (notes : List Text) : List Text :=
  if notes.isEmpty then [] else titled "## Notes" (notes.map fun note => "- " ++ note)

def gapLines (gaps : List Gap) : List Text :=
  titled "## Missing fields" <|
    if gaps.isEmpty then ["No incomplete rows."]
    else
      "| Table | Origin | Statement | Row | Rows | Missing |" ::
      "|-------|--------|----------:|----:|-----:|---------|" :: gaps.map gapRow

def report (report : Report) (showGaps : Bool) : Text :=
  lines (heading ++ report.rows.map tableRow ++ [totalRow report] ++ noteLines report.notes ++
    if showGaps then gapLines report.gaps else [])

def catalogRow (spec : TableSpec) : Text :=
  row [cell spec.label, code spec.name, fields spec.required, spec.follows.getD []]

def catalog (tables : List TableSpec) : Text :=
  lines <|
    "| Label | Table | Required fields | Follows |" ::
    "|-------|-------|-----------------|---------|" :: tables.map catalogRow

end SeedCoverage.Render.Markdown

import SeedCoverage.Sql.Insert

/-! Sampled statements, for a look at how a table's statements were read. -/
namespace SeedCoverage.Render

open Text Sql

/-- A statement and the file it stands in. -/
structure Sample (catalog : Catalog) where
  path : Text
  insert : Insert catalog

variable {catalog : Catalog}

/-- The first line says what was read; the rows follow, at most `limit` of them. -/
def Sample.lines (limit : Nat) (sample : Sample catalog) : List Text :=
  let insert := sample.insert
  let title := sample.path ++ ": " ++ insert.source.keyword ++ " mode, columns (" ++
    join ", " insert.columns ++ "), " ++ ofNat insert.rows.length ++ " row(s), " ++
    ofNat insert.rejected ++ " rejected"
  let query := match insert.source.body? with
    | none => []
    | some body => ["  select: " ++ join " " (words body)]
  let rows := ((insert.rows.take limit).zipIdx 1).map fun (row, place) =>
    "  [" ++ ofNat place ++ "] " ++ join " | " row
  title :: query ++ rows

def samples (table : Text) (samples : List (Sample catalog)) (limit : Nat) : Text :=
  Text.lines (("== " ++ table ++ ": " ++ ofNat samples.length ++ " sampled statement(s) ==") ::
    samples.flatMap (Sample.lines limit))

end SeedCoverage.Render

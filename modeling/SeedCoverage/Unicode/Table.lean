import SeedCoverage.Text.Digits

/-! Tables of code points. A row is `first-last` in base sixteen, or `first` alone; `/step` says that
only every so many code points count, and what stands behind `>` are the values of the row. -/
namespace SeedCoverage.Unicode

open Text

/-- A row of a table. -/
structure Row where
  first : Nat
  last : Nat
  step : Nat := 1
  values : List Nat := []
  deriving DecidableEq, Repr

namespace Row

/-- The row that a word spells. -/
def ofText (word : Text) : Row :=
  let read (digits : Text) : Nat := digitsValue 16 digits
  let values := match splitOn '>' word with
    | [_, values] => (splitOn ',' values).map read
    | _ => []
  match splitOn '-' ((splitOn '>' word).headD []) with
  | [first, rest] =>
    match splitOn '/' rest with
    | [last, step] => ⟨read first, read last, read step, values⟩
    | _ => ⟨read first, read rest, 1, values⟩
  | key => ⟨read (key.headD []), read (key.headD []), 1, values⟩

def holds (row : Row) (c : Char) : Bool :=
  row.first ≤ c.toNat && c.toNat ≤ row.last && (c.toNat - row.first) % row.step == 0

/-- The values of a row for `c`: they go up as `c` does. -/
def shifted (row : Row) (c : Char) : Text :=
  row.values.map fun value => Char.ofNat (value + (c.toNat - row.first))

end Row

abbrev Table := List Row

namespace Table

/-- The table in lines of words. -/
def ofLines (lines : List String) : Table :=
  lines.flatMap fun line => (splitOn ' ' line.toList).map Row.ofText

/-- The first row for a character. -/
def find? (table : Table) (c : Char) : Option Row := List.find? (fun row => row.holds c) table

def holds (table : Table) (c : Char) : Bool := table.any fun row => row.holds c

end Table
end SeedCoverage.Unicode

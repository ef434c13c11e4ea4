import SeedCoverage.Text.Basic
import SeedCoverage.Sql.State

/-! Comments outside quotes go: a line comment up to its line feed, a block comment for one blank.
A block comment that is never closed runs to the end. -/
namespace SeedCoverage.Sql

/-- What a character belongs to. -/
inductive Region where
  | sql (quote : Quote)
  | lineComment
  | blockComment
  deriving DecidableEq, Repr

/-- `text` without comments, from a place that belongs to `region`. -/
def stripFrom : Region → Text → Text
  | _, [] => []
  | .sql _, [c] => [c]
  | .lineComment, [c] => if c = '\n' then [c] else []
  | .blockComment, [_] => []
  | .sql quote, c :: d :: rest =>
    if quote = .code ∧ c = '-' ∧ d = '-' then stripFrom .lineComment (d :: rest)
    else if quote = .code ∧ c = '/' ∧ d = '*' then ' ' :: stripFrom .blockComment rest
    else if quote ≠ .double ∧ c = '\'' ∧ d = '\'' then c :: d :: stripFrom (.sql quote) rest
    else c :: stripFrom (.sql (quote.read c)) (d :: rest)
  | .lineComment, c :: d :: rest =>
    if c = '\n' then c :: stripFrom (.sql .code) (d :: rest) else stripFrom .lineComment (d :: rest)
  | .blockComment, c :: d :: rest =>
    if c = '*' ∧ d = '/' then stripFrom (.sql .code) rest else stripFrom .blockComment (d :: rest)

def stripComments (text : Text) : Text := stripFrom (.sql .code) text

end SeedCoverage.Sql

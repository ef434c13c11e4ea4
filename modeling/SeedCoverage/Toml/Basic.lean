import SeedCoverage.Number.Decimal

/-! TOML values, and the characters a document may hold. -/
namespace SeedCoverage

/-- A TOML value. Of a date or time only its presence is kept. -/
inductive Toml where
  | string (content : Text)
  | integer (value : Int)
  | float (value : Double)
  | boolean (value : Bool)
  | dateTime
  | array (items : List Toml)
  | table (members : List (Text × Toml))
  deriving Repr

namespace Toml

/-- Blanks within a line. -/
def isSpace (c : Char) : Bool := c == ' ' || c == '\t'

/-- Characters of comments and strings: the tab, and all but control characters. -/
def isTextChar (c : Char) : Bool := c == '\t' || (0x20 ≤ c.toNat && c.toNat != 0x7F)

/-- Characters of bare keys. -/
def isKeyChar (c : Char) : Bool := c.isAlphanum || c == '_' || c == '-'

/-- The text behind blanks, line ends and comments; a comment may be open already. -/
def skipGaps? (inComment : Bool) : Text → Option Text
  | [] => some []
  | c :: rest =>
    if c = '\n' then skipGaps? false rest
    else if c = '\r' then if rest.head? = some '\n' then skipGaps? inComment rest else none
    else if inComment then if isTextChar c then skipGaps? true rest else none
    else if c = '#' then skipGaps? true rest
    else if isSpace c then skipGaps? false rest
    else some (c :: rest)

/-- The text behind the rest of a line that holds no more than a comment, and behind what gaps
follow it. -/
def skipLineEnd? (text : Text) : Option Text :=
  match text.dropWhile isSpace with
  | [] => some []
  | '#' :: rest => skipGaps? true rest
  | '\n' :: rest => skipGaps? false rest
  | '\r' :: rest => if rest.head? = some '\n' then skipGaps? false rest else none
  | _ => none

end Toml
end SeedCoverage

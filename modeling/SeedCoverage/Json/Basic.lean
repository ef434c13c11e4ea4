import SeedCoverage.Text.Basic

/-! JSON values, and their text over several lines with two blanks for every level. -/
namespace SeedCoverage

open Text

/-- A JSON value. A number keeps its spelling, an object the order of its members. -/
inductive Json where
  | null
  | bool (value : Bool)
  | number (spelling : Text)
  | string (content : Text)
  | array (items : List Json)
  | object (members : List (Text × Json))
  deriving Repr, Inhabited

namespace Json

def ofNat (value : Nat) : Json := .number (Text.ofNat value)

def texts (values : List Text) : Json := .array (values.map .string)

/-- The hexadecimal digit of a number below sixteen, in lower case. -/
def hexDigit (value : Nat) : Char := Nat.digitChar value

/-- A character inside a string: quotes, backslashes and control characters are escaped. -/
def escapeChar (c : Char) : Text :=
  if c = '"' then "\\\""
  else if c = '\\' then "\\\\"
  else if c = '\x08' then "\\b"
  else if c = '\t' then "\\t"
  else if c = '\n' then "\\n"
  else if c = '\x0c' then "\\f"
  else if c = '\r' then "\\r"
  else if c.toNat < 0x20 then "\\u00" ++ [hexDigit (c.toNat / 16), hexDigit (c.toNat % 16)]
  else [c]

def quote (content : Text) : Text := '"' :: content.flatMap escapeChar ++ ['"']

def indent (level : Nat) : Text := List.replicate (2 * level) ' '

mutual
/-- The text of a value whose first line begins on the present line. -/
def pretty (level : Nat) : Json → Text
  | .null => "null"
  | .bool true => "true"
  | .bool false => "false"
  | .number spelling => spelling
  | .string content => quote content
  | .array [] => "[]"
  | .array (item :: items) =>
    "[\n" ++ prettyItems (level + 1) (item :: items) ++ "\n" ++ indent level ++ "]"
  | .object [] => "\x7b\x7d"
  | .object (member :: members) =>
    "\x7b\n" ++ prettyMembers (level + 1) (member :: members) ++ "\n" ++ indent level ++ "\x7d"

def prettyItems (level : Nat) : List Json → Text
  | [] => []
  | [item] => indent level ++ pretty level item
  | item :: items => indent level ++ pretty level item ++ ",\n" ++ prettyItems level items

def prettyMembers (level : Nat) : List (Text × Json) → Text
  | [] => []
  | [(name, value)] => indent level ++ quote name ++ ": " ++ pretty level value
  | (name, value) :: members =>
    indent level ++ quote name ++ ": " ++ pretty level value ++ ",\n" ++ prettyMembers level members
end

/-- The text of a value by itself. -/
def render (value : Json) : Text := pretty 0 value

end Json
end SeedCoverage

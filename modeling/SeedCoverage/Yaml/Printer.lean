import SeedCoverage.Json.Basic
import SeedCoverage.Yaml.Scalar

/-! JSON values as YAML in block style. Members and items stand on lines of their own; a list inside
an object is not indented. -/
namespace SeedCoverage.Yaml

/-- A line feed, unless the text has just ended its line. -/
def endLine (text : Text) : Text := if text.getLast?.any isBreak then text else text ++ ['\n']

def indentation (level : Nat) : Text := List.replicate level ' '

mutual
/-- A value behind a key or a dash, through the end of its last line. -/
def value (level : Nat) : Json → Text
  | .null => " null\n"
  | .bool true => " true\n"
  | .bool false => " false\n"
  | .number spelling => ' ' :: spelling ++ ['\n']
  | .string content => ' ' :: endLine (scalar (level + 2) content)
  | .array [] => " []\n"
  | .array (item :: rest) => '\n' :: items level (item :: rest)
  | .object [] => " \x7b\x7d\n"
  | .object (member :: rest) => '\n' :: members (level + 2) (member :: rest)

/-- The items of a list, each behind a dash. -/
def items (level : Nat) : List Json → Text
  | [] => []
  | .object (member :: others) :: rest =>
    indentation level ++ "- " ++ (members (level + 2) (member :: others)).drop (level + 2) ++
      items level rest
  | .array (item :: others) :: rest =>
    indentation level ++ "- " ++ (items (level + 2) (item :: others)).drop (level + 2) ++
      items level rest
  | item :: rest => indentation level ++ "-" ++ value level item ++ items level rest

/-- The members of an object, each behind its name. -/
def members (level : Nat) : List (Text × Json) → Text
  | [] => []
  | (name, content) :: rest =>
    indentation level ++ name ++ ":" ++ value level content ++ members level rest
end

/-- A document with one value. -/
def render : Json → Text
  | .object (member :: rest) => members 0 (member :: rest)
  | .array (item :: rest) => items 0 (item :: rest)
  | other => (value 0 other).drop 1

end SeedCoverage.Yaml

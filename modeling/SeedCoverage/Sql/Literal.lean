import SeedCoverage.Text.Blank

/-! String literals, in which a quote is written twice, and which values count as present. -/
namespace SeedCoverage.Sql

open Text

/-- A quote is written twice, all else once. -/
def escape (content : Text) : Text := content.flatMap fun c => if c = '\'' then ['\'', '\''] else [c]

/-- `content` as a string literal. -/
def quote (content : Text) : Text := '\'' :: escape content ++ ['\'']

/-- The content up to the quote that closes it, and what follows that quote. -/
def unescape? : Text → Option (Text × Text)
  | [] => none
  | [c] => if c = '\'' then some ([], []) else none
  | c :: d :: rest =>
    if c = '\'' then
      if d = '\'' then (unescape? rest).map fun (content, after) => ('\'' :: content, after)
      else some ([], d :: rest)
    else (unescape? (d :: rest)).map fun (content, after) => (c :: content, after)

/-- The content of a token that is one string literal, with or without a cast behind it. -/
def literalContent? (token : Text) : Option Text :=
  match trim token with
  | '\'' :: body => do
    let (content, after) ← unescape? body
    let cast := trimStart after
    if cast.isEmpty || cast.take 2 == [':', ':'] then some content else none
  | _ => none

/-- NULL in any case. -/
def isNull (token : Text) : Bool := same (trim token) "null"

/-- A value is present unless it is blank, NULL, or a string literal with blank content. -/
def isPresent (token : Text) : Bool :=
  if blank token || isNull token then false
  else match literalContent? token with
    | some content => !blank content
    | none => true

end SeedCoverage.Sql

import SeedCoverage.Toml.Quoted
import SeedCoverage.Toml.Scalar
import SeedCoverage.Toml.Table

/-! Reading a TOML document. Lists and inline tables may be nested eighty deep,
and a key may have eighty parts. -/
namespace SeedCoverage.Toml

/-- A part of a key: bare or quoted on one line. -/
def keyPart? (text : Text) : Option (Text × Text) :=
  match text with
  | '"' :: rest => basic? false (.plain false) rest
  | '\'' :: rest => literal? false rest
  | _ =>
    let name := text.takeWhile isKeyChar
    if name.isEmpty then none else some (name, text.dropWhile isKeyChar)

/-- The parts of a dotted key, at most `fuel` of them, and what follows the blanks behind them. -/
def key? : Nat → Text → Option (List Text × Text)
  | 0, _ => none
  | fuel + 1, text => do
    let (part, rest) ← keyPart? (text.dropWhile isSpace)
    match rest.dropWhile isSpace with
    | '.' :: more =>
      let (parts, rest) ← key? fuel more
      return (part :: parts, rest)
    | rest => return ([part], rest)

/-- How deep values may be nested, and of how many parts a key may be. -/
def nestingLimit : Nat := 80

/-- A dotted key at the start of `text`. -/
def dottedKey? (text : Text) : Option (List Text × Text) := key? nestingLimit text

mutual
/-- A value and what follows it; `fuel` bounds the steps, `depth` the nesting. -/
def value? : Nat → Nat → Text → Option (Toml × Text)
  | 0, _, _ => none
  | fuel + 1, depth, text =>
    match text with
    | '[' :: rest =>
      if depth = 0 then none
      else (items? fuel (depth - 1) rest).map fun (items, rest) => (.array items, rest)
    | '\x7b' :: rest =>
      if depth = 0 then none
      else (members? fuel (depth - 1) [] rest).map fun (members, rest) =>
        (.table (finishMembers members), rest)
    | '"' :: _ | '\'' :: _ => (quoted? text).map fun (content, rest) => (.string content, rest)
    | _ =>
      let (word, rest) := token text
      (scalar? word).map fun value => (value, rest)

/-- The items of a list up to its bracket; a comma may stand behind the last one. -/
def items? : Nat → Nat → Text → Option (List Toml × Text)
  | 0, _, _ => none
  | fuel + 1, depth, text => do
    match ← skipGaps? false text with
    | ']' :: rest => return ([], rest)
    | start =>
      let (item, rest) ← value? fuel depth start
      match ← skipGaps? false rest with
      | ',' :: rest =>
        let (items, rest) ← items? fuel depth rest
        return (item :: items, rest)
      | ']' :: rest => return ([item], rest)
      | _ => none

/-- The members of an inline table up to its brace, added to those before; a comma may stand behind
the last one. -/
def members? : Nat → Nat → Members → Text → Option (Members × Text)
  | 0, _, _, _ => none
  | fuel + 1, depth, members, text => do
    match ← skipGaps? false text with
    | '\x7d' :: rest => return (members, rest)
    | start =>
      let (path, rest) ← dottedKey? start
      let rest ← expect? '=' rest
      let (value, rest) ← value? fuel depth (rest.dropWhile isSpace)
      let members ← assign value path .header members
      match ← skipGaps? false rest with
      | ',' :: rest => members? fuel depth members rest
      | '\x7d' :: rest => return (members, rest)
      | _ => none
end

/-- What a line of a document says. -/
inductive Line where
  | header (path : List Text)
  | repeated (path : List Text)
  | entry (path : List Text) (value : Toml)

/-- The line at the start of `text`, and the text from the next one on. -/
def line? (text : Text) : Option (Line × Text) :=
  match text with
  | '[' :: '[' :: rest => do
    let (path, rest) ← dottedKey? rest
    let rest ← expect? ']' (← expect? ']' rest)
    return (.repeated path, ← skipLineEnd? rest)
  | '[' :: rest => do
    let (path, rest) ← dottedKey? rest
    return (.header path, ← skipLineEnd? (← expect? ']' rest))
  | _ => do
    let (path, rest) ← dottedKey? text
    let rest ← expect? '=' rest
    let (value, rest) ← value? (2 * text.length) nestingLimit (rest.dropWhile isSpace)
    return (.entry path value, ← skipLineEnd? rest)

/-- The lines of a document, at most `fuel` of them. -/
def lines? : Nat → Text → Option (List Line)
  | _, [] => some []
  | 0, _ => none
  | fuel + 1, text => do
    let (line, rest) ← line? text
    return line :: (← lines? fuel rest)

/-- The path to the table that entries belong to, and the members of the document so far. -/
abbrev Draft := List Text × Members

def applyLine (draft : Draft) : Line → Option Draft
  | .header path => do
    return (path, ← atHeader (openTable (path.getLast?.getD [])) path.dropLast draft.2)
  | .repeated path => do
    return (path, ← atHeader (openElement (path.getLast?.getD [])) path.dropLast draft.2)
  | .entry path value => do
    return (draft.1, ← atHeader (assign value path .header) draft.1 draft.2)

/-- The members of a document, behind a byte-order mark if it has one. -/
def parse? (text : Text) : Option (List (Text × Toml)) := do
  let text := if text.head? = some '\ufeff' then text.tail else text
  let lines ← lines? text.length (← skipGaps? false text)
  let draft ← lines.foldlM applyLine ([], [])
  return finishMembers draft.2

end SeedCoverage.Toml

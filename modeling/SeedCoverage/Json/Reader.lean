import SeedCoverage.Json.Basic
import SeedCoverage.Json.Number

/-! Reading JSON text. Lists and objects may be nested 127 deep, numbers must be in the range of
doubles, and every escaped half of a pair must have its other half. -/
namespace SeedCoverage.Json

/-- Blanks between the tokens of JSON text. -/
def isSpace (c : Char) : Bool := c == ' ' || c == '\t' || c == '\n' || c == '\r'

def skipSpace (text : Text) : Text := text.dropWhile isSpace

/-- Where reading stands in a string. -/
inductive StringState where
  | plain
  /-- Behind a backslash. -/
  | escape
  /-- With so many hexadecimal digits to come, and the value of those before; the first half of a
  pair may stand before them. -/
  | hex (half : Option Nat) (left value : Nat)
  /-- Behind the first half of a pair; the letter of an escape comes next, or its backslash. -/
  | pair (half : Nat) (behindBackslash : Bool)

/-- The character that one letter behind a backslash stands for. -/
def shortEscape? (c : Char) : Option Char :=
  if c = '"' || c = '\\' || c = '/' then some c
  else if c = 'b' then some '\x08'
  else if c = 'f' then some '\x0c'
  else if c = 'n' then some '\n'
  else if c = 'r' then some '\r'
  else if c = 't' then some '\t'
  else none

/-- What the digits of an escape give: a character, or the first half of a pair. -/
def escaped? (half : Option Nat) (code : Nat) : Option (Char ⊕ Nat) :=
  match half with
  | some high =>
    if 0xDC00 ≤ code && code ≤ 0xDFFF then
      some (.inl (Char.ofNat (0x10000 + (high - 0xD800) * 0x400 + (code - 0xDC00))))
    else none
  | none =>
    if 0xD800 ≤ code && code ≤ 0xDBFF then some (.inr code)
    else if 0xDC00 ≤ code && code ≤ 0xDFFF then none
    else some (.inl (Char.ofNat code))

/-- Puts a character before what is read behind it. -/
def push (c : Char) (rest : Option (Text × Text)) : Option (Text × Text) :=
  rest.map fun (content, after) => (c :: content, after)

/-- A string up to its closing quote, and what follows. -/
def string? : StringState → Text → Option (Text × Text)
  | _, [] => none
  | .plain, c :: rest =>
    if c = '"' then some ([], rest)
    else if c = '\\' then string? .escape rest
    else if c.toNat < 0x20 then none
    else push c (string? .plain rest)
  | .escape, c :: rest =>
    if c = 'u' then string? (.hex none 4 0) rest
    else match shortEscape? c with
      | some meaning => push meaning (string? .plain rest)
      | none => none
  | .hex half left value, c :: rest =>
    if !isHexDigit c then none
    else if 1 < left then string? (.hex half (left - 1) (16 * value + digitValue c)) rest
    else match escaped? half (16 * value + digitValue c) with
      | some (.inl meaning) => push meaning (string? .plain rest)
      | some (.inr high) => string? (.pair high false) rest
      | none => none
  | .pair high false, c :: rest => if c = '\\' then string? (.pair high true) rest else none
  | .pair high true, c :: rest => if c = 'u' then string? (.hex (some high) 4 0) rest else none

/-- The words with a meaning, at the start of `text`. -/
def word? (text : Text) : Option (Json × Text) :=
  if ("null" : Text).isPrefixOf text then some (.null, text.drop 4)
  else if ("true" : Text).isPrefixOf text then some (.bool true, text.drop 4)
  else if ("false" : Text).isPrefixOf text then some (.bool false, text.drop 5)
  else none

mutual
/-- A value and what follows it; `fuel` bounds the steps, `depth` the nesting. -/
def value? : Nat → Nat → Text → Option (Json × Text)
  | 0, _, _ => none
  | fuel + 1, depth, text =>
    match skipSpace text with
    | '"' :: rest => (string? .plain rest).map fun (content, rest) => (.string content, rest)
    | '[' :: rest =>
      if depth = 0 then none
      else match skipSpace rest with
        | ']' :: rest => some (.array [], rest)
        | _ => (items? fuel (depth - 1) rest).map fun (items, rest) => (.array items, rest)
    | '\x7b' :: rest =>
      if depth = 0 then none
      else match skipSpace rest with
        | '\x7d' :: rest => some (.object [], rest)
        | _ => (members? fuel (depth - 1) rest).map fun (members, rest) => (.object members, rest)
    | start =>
      (word? start).or ((number? start).map fun (spelling, rest) => (.number spelling, rest))

/-- The items of a list up to its bracket, and what follows. -/
def items? : Nat → Nat → Text → Option (List Json × Text)
  | 0, _, _ => none
  | fuel + 1, depth, text => do
    let (item, rest) ← value? fuel depth text
    match skipSpace rest with
    | ',' :: rest =>
      let (items, rest) ← items? fuel depth rest
      return (item :: items, rest)
    | ']' :: rest => return ([item], rest)
    | _ => none

/-- The members of an object up to its brace, and what follows. -/
def members? : Nat → Nat → Text → Option (List (Text × Json) × Text)
  | 0, _, _ => none
  | fuel + 1, depth, text => do
    match skipSpace text with
    | '"' :: rest =>
      let (name, rest) ← string? .plain rest
      match skipSpace rest with
      | ':' :: rest =>
        let (value, rest) ← value? fuel depth rest
        match skipSpace rest with
        | ',' :: rest =>
          let (members, rest) ← members? fuel depth rest
          return ((name, value) :: members, rest)
        | '\x7d' :: rest => return ([(name, value)], rest)
        | _ => none
      | _ => none
    | _ => none
end

/-- How deep values may be nested. -/
def nestingLimit : Nat := 127

/-- The value that a text spells. -/
def parse? (text : Text) : Option Json := do
  let (value, rest) ← value? (2 * text.length + 2) nestingLimit text
  if (skipSpace rest).isEmpty then some value else none

/-- The value of a member; of members with one name the last counts. -/
def member? (members : List (Text × Json)) (name : Text) : Option Json :=
  (members.reverse.find? fun member => member.1 == name).map Prod.snd

end SeedCoverage.Json

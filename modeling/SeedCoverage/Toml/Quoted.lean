import SeedCoverage.Toml.Basic

/-! Quoted text in TOML: basic text with escapes in double quotes, literal text in single quotes,
each on one line or, behind three quotes, on several. -/
namespace SeedCoverage.Toml

/-- Where reading stands in basic text. -/
inductive QuotedState where
  /-- Among characters; `folding` while the gap behind an escaped line end is passed over. -/
  | plain (folding : Bool)
  /-- Behind a backslash. -/
  | escape
  /-- Behind a backslash and blanks, with the line end to come. -/
  | lineEnd
  /-- With so many hexadecimal digits to come, and the value of those before. -/
  | hex (left value : Nat)

/-- Puts a character before what is read behind it. -/
def push (c : Char) (rest : Option (Text × Text)) : Option (Text × Text) :=
  rest.map fun (content, after) => (c :: content, after)

/-- The end of text behind three quotes; up to two more before them belong to the content. -/
def closeLong? (mark : Char) (text : Text) : Option (Text × Text) :=
  let run := (text.takeWhile (· == mark)).length
  if run ≤ 5 then some (List.replicate (run - 3) mark, text.drop run) else none

/-- The character that one letter behind a backslash stands for. -/
def shortEscape? (c : Char) : Option Char :=
  if c = 'b' then some '\x08'
  else if c = 't' then some '\t'
  else if c = 'n' then some '\n'
  else if c = 'f' then some '\x0c'
  else if c = 'r' then some '\r'
  else if c = 'e' then some '\x1b'
  else if c = '"' then some '"'
  else if c = '\\' then some '\\'
  else none

/-- How many digits a letter behind a backslash asks for. -/
def hexEscape? (c : Char) : Option Nat :=
  if c = 'x' then some 2 else if c = 'u' then some 4 else if c = 'U' then some 8 else none

/-- Basic text up to its end, and what follows; `long` text may hold line ends. -/
def basic? (long : Bool) : QuotedState → Text → Option (Text × Text)
  | _, [] => none
  | .plain folding, c :: rest =>
    if c = '"' then
      if !long then some ([], rest)
      else if rest.take 2 = ['"', '"'] then closeLong? '"' (c :: rest)
      else push c (basic? long (.plain false) rest)
    else if c = '\\' then basic? long .escape rest
    else if folding && (isSpace c || c == '\n') then basic? long (.plain true) rest
    else if c = '\n' then if long then push c (basic? long (.plain false) rest) else none
    else if c = '\r' then
      if !(long && rest.head? == some '\n') then none
      else if folding then basic? long (.plain true) rest
      else push c (basic? long (.plain false) rest)
    else if isTextChar c then push c (basic? long (.plain false) rest)
    else none
  | .escape, c :: rest =>
    match shortEscape? c, hexEscape? c with
    | some meaning, _ => push meaning (basic? long (.plain false) rest)
    | none, some digits => basic? long (.hex digits 0) rest
    | none, none =>
      if !long then none
      else if isSpace c || (c == '\r' && rest.head? == some '\n') then basic? long .lineEnd rest
      else if c = '\n' then basic? long (.plain true) rest
      else none
  | .lineEnd, c :: rest =>
    if isSpace c || (c == '\r' && rest.head? == some '\n') then basic? long .lineEnd rest
    else if c = '\n' then basic? long (.plain true) rest
    else none
  | .hex left value, c :: rest =>
    if !isHexDigit c then none
    else
      let code := 16 * value + digitValue c
      if 1 < left then basic? long (.hex (left - 1) code) rest
      else if code.isValidChar then push (Char.ofNat code) (basic? long (.plain false) rest)
      else none

/-- Literal text up to its end, and what follows. -/
def literal? (long : Bool) : Text → Option (Text × Text)
  | [] => none
  | c :: rest =>
    if c = '\'' then
      if !long then some ([], rest)
      else if rest.take 2 = ['\'', '\''] then closeLong? '\'' (c :: rest)
      else push c (literal? long rest)
    else if c = '\n' then if long then push c (literal? long rest) else none
    else if c = '\r' then
      if long && rest.head? == some '\n' then push c (literal? long rest) else none
    else if isTextChar c then push c (literal? long rest)
    else none

/-- A line end right behind the opening quotes is no content. -/
def dropFirstLineEnd : Text → Text
  | '\n' :: rest => rest
  | '\r' :: '\n' :: rest => rest
  | text => text

/-- Quoted text of any kind at the start of `text`. -/
def quoted? (text : Text) : Option (Text × Text) :=
  match text with
  | '"' :: '"' :: '"' :: rest => basic? true (.plain false) (dropFirstLineEnd rest)
  | '\'' :: '\'' :: '\'' :: rest => literal? true (dropFirstLineEnd rest)
  | '"' :: rest => basic? false (.plain false) rest
  | '\'' :: rest => literal? false rest
  | _ => none

end SeedCoverage.Toml

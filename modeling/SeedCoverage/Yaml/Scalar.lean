import SeedCoverage.Number.Decimal
import SeedCoverage.Text.Digits

/-! How a text is written in YAML so that it reads back as that text: plain where nothing in it has
a meaning, else in single quotes, in double quotes, or as a literal block. -/
namespace SeedCoverage.Yaml

open Text

/-- Characters that end a line. -/
def isBreak (c : Char) : Bool :=
  c == '\n' || c == '\r' || c == '\x85' || c == '\u2028' || c == '\u2029'

/-- Characters that stand for themselves; the tab and the byte-order mark do not. -/
def isPrintable (c : Char) : Bool :=
  let code := c.toNat
  code == 0x0A || (0x20 ≤ code && code ≤ 0x7E) || (0xA0 ≤ code && code ≤ 0xFFFD && code != 0xFEFF) ||
    0x10000 ≤ code

/-- Blanks, breaks, the null character and the end of the text. -/
def isGap : Option Char → Bool
  | none => true
  | some c => c == ' ' || c == '\t' || c == '\x00' || isBreak c

/-- A digit after a leading zero, with or without a sign: not a number, though made of digits. -/
def zeroLed (text : Text) : Bool :=
  let digits := match text with
    | '-' :: rest | '+' :: rest => rest
    | _ => text
  1 < digits.length && digits.head? == some '0' && digits.all Char.isDigit

/-- Digits of a base that make a number of at most `limit`. -/
def wholeIn (base : Nat) (isDigit : Char → Bool) (limit : Nat) (digits : Text) : Bool :=
  !digits.isEmpty && digits.all isDigit && digitsValue base digits ≤ limit

/-- A whole number, its sign aside: decimal, or in base 16, 8 or 2 with the mark for it. -/
def isWholeNumber (limit : Nat) (text : Text) : Bool :=
  match text with
  | '0' :: 'x' :: digits => wholeIn 16 isHexDigit limit digits
  | '0' :: 'o' :: digits => wholeIn 8 isOctalDigit limit digits
  | '0' :: 'b' :: digits => wholeIn 2 isBinaryDigit limit digits
  | digits => wholeIn 10 Char.isDigit limit digits

/-- A text that reads as a whole number of at most 128 bits. -/
def readsAsWhole (text : Text) : Bool :=
  !zeroLed text && match text with
    | '-' :: rest => isWholeNumber (Nat.pow 2 127) rest
    | '+' :: rest => isWholeNumber (Nat.pow 2 128 - 1) rest
    | _ => isWholeNumber (Nat.pow 2 128 - 1) text

def infinities : List Text := [".inf", ".Inf", ".INF"]

def nans : List Text := [".nan", ".NaN", ".NAN"]

/-- A text that reads as a number with a point or an exponent, or as an infinity, or as no number. -/
def readsAsFraction (text : Text) : Bool :=
  !zeroLed text && (nans.contains text ||
    let size := match text with
      | '-' :: rest | '+' :: rest => rest
      | _ => text
    infinities.contains size || (Decimal.ofText? size).any Decimal.inRange)

/-- The words for nothing and for the truth values. -/
def reserved : List Text :=
  ["null", "Null", "NULL", "~", "true", "True", "TRUE", "false", "False", "FALSE"]

/-- A text that would not read back as a text if it stood plain. -/
def misread (text : Text) : Bool :=
  text.isEmpty || reserved.contains text || zeroLed text || readsAsWhole text || readsAsFraction text

/-- Characters that have a meaning at the start of a text, whatever follows. -/
def isIndicator (c : Char) : Bool := (",[]\x7b\x7d#&*!|>'\"%@\x60" : Text).contains c

/-- Whether some character has a meaning where it stands; `previous` is before the text. -/
def hasIndicator (previous : Option Char) : Text → Bool
  | [] => false
  | c :: rest =>
    (match previous with
      | none => isIndicator c || ((c == '?' || c == ':' || c == '-') && isGap rest.head?)
      | some _ => (c == ':' && isGap rest.head?) || (c == '#' && isGap previous)) ||
      hasIndicator (some c) rest

/-- Two characters in a row of which the first passes one test and the second the other. -/
def hasPair (first second : Char → Bool) : Text → Bool
  | [] => false
  | [_] => false
  | c :: d :: rest => (first c && second d) || hasPair first second (d :: rest)

/-- The marks that begin and end a document. -/
def startsDocument (text : Text) : Bool :=
  text.take 3 == ("---" : Text) || text.take 3 == ("..." : Text)

/-- Ways to write a text. -/
inductive Style where
  | plain
  | single
  | double
  | literal
  deriving DecidableEq, Repr

/-- Neither quotes nor blocks keep what only escapes can write. -/
def needsEscapes (text : Text) : Bool :=
  !text.all isPrintable || hasPair (· == ' ') isBreak text

/-- A text may stand plain if no part of it has a meaning and nothing at its ends gets lost. -/
def plainAllowed (text : Text) : Bool :=
  !(hasIndicator none text || startsDocument text || text.any isBreak || needsEscapes text ||
    text.head? == some ' ' || text.getLast? == some ' ')

/-- The way a text is written. -/
def Style.of (text : Text) : Style :=
  if text.contains '\n' then
    if needsEscapes text || text.getLast? == some ' ' then .double else .literal
  else if !misread text && plainAllowed text then .plain
  else if needsEscapes text || hasPair isBreak (· == ' ') text then .double
  else .single

/-- The hexadecimal digits of a number, in upper case, with zeros up to `width`. -/
def hex (width value : Nat) : Text :=
  let digits := (Nat.toDigits 16 value).map Char.toUpper
  List.replicate (width - digits.length) '0' ++ digits

/-- The letter that escapes a character, for those that have one. -/
def shortEscape? (c : Char) : Option Char :=
  match c.toNat with
  | 0x00 => some '0'
  | 0x07 => some 'a'
  | 0x08 => some 'b'
  | 0x09 => some 't'
  | 0x0A => some 'n'
  | 0x0B => some 'v'
  | 0x0C => some 'f'
  | 0x0D => some 'r'
  | 0x1B => some 'e'
  | 0x22 => some '"'
  | 0x5C => some '\\'
  | 0x85 => some 'N'
  | 0xA0 => some '_'
  | 0x2028 => some 'L'
  | 0x2029 => some 'P'
  | _ => none

/-- A character inside double quotes. -/
def escapeChar (c : Char) : Text :=
  if isPrintable c && !isBreak c && c != '"' && c != '\\' then [c]
  else '\\' :: match shortEscape? c with
    | some letter => [letter]
    | none =>
      if c.toNat ≤ 0xFF then 'x' :: hex 2 c.toNat
      else if c.toNat ≤ 0xFFFF then 'u' :: hex 4 c.toNat
      else 'U' :: hex 8 c.toNat

def doubleQuoted (text : Text) : Text := '"' :: text.flatMap escapeChar ++ ['"']

/-- A quote is written twice; a line after a break begins at the indentation. -/
def singleQuotedFrom (indent : Nat) (broken : Bool) : Text → Text
  | [] => if broken then List.replicate indent ' ' else []
  | c :: rest =>
    if isBreak c then c :: singleQuotedFrom indent true rest
    else
      (if broken then List.replicate indent ' ' else []) ++ (if c = '\'' then ['\'', '\''] else [c]) ++
        singleQuotedFrom indent false rest

def singleQuoted (indent : Nat) (text : Text) : Text :=
  '\'' :: singleQuotedFrom indent false text ++ ['\'']

/-- Every line that is not empty begins at the indentation. -/
def literalLines (indent : Nat) (broken : Bool) : Text → Text
  | [] => []
  | c :: rest =>
    if isBreak c then c :: literalLines indent true rest
    else (if broken then List.replicate indent ' ' else []) ++ c :: literalLines indent false rest

/-- What is said about the breaks at the end: dropped, kept as one, or kept as they are. -/
def chomping (text : Text) : Text :=
  match text.reverse with
  | [] => "-"
  | last :: others =>
    if !isBreak last then "-"
    else match others with
      | [] => "+"
      | other :: _ => if isBreak other then "+" else []

/-- A block says how far it is indented if it begins with a blank or a break. -/
def literal (indent : Nat) (text : Text) : Text :=
  let hint : Text := if text.head?.any fun c => c == ' ' || isBreak c then "2" else []
  '|' :: hint ++ chomping text ++ "\n" ++ literalLines indent true text

/-- A text as a value whose further lines begin at `indent`. -/
def scalar (indent : Nat) (text : Text) : Text :=
  match Style.of text with
  | .plain => text
  | .single => singleQuoted indent text
  | .double => doubleQuoted text
  | .literal => literal indent text

end SeedCoverage.Yaml

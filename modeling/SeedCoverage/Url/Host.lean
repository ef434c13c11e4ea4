import SeedCoverage.Url.Name
import SeedCoverage.Url.Percent

/-! Hosts. A host name is in lower case and ASCII; a name whose last label is a number is an address
of four bytes, and one in brackets an address of eight words. Addresses have one spelling each. -/
namespace SeedCoverage.Url

open Text

/-- A label as a number: of base sixteen behind `0x`, of base eight behind a zero, or else of
base ten. -/
def labelNumber? (label : Text) : Option Nat :=
  let read (base : Nat) (isDigit : Char → Bool) (digits : Text) : Option Nat :=
    if digits.all isDigit then some (digitsValue base digits) else none
  match label with
  | [] => none
  | '0' :: 'x' :: digits | '0' :: 'X' :: digits => read 16 isHexDigit digits
  | '0' :: digit :: digits => read 8 isOctalDigit (digit :: digits)
  | _ => read 10 Char.isDigit label

/-- The labels of a name; a dot at its end says nothing. -/
def labels (name : Text) : List Text :=
  let labels := splitOn '.' name
  if 1 < labels.length && labels.getLast? == some [] then labels.dropLast else labels

/-- The last label is a number, sound or not. -/
def endsInNumber (name : Text) : Bool :=
  ((labels name).getLast?).any fun label =>
    (!label.isEmpty && label.all Char.isDigit) ||
      (label.length ≥ 2 && same (label.take 2) "0x" && (labelNumber? label).isSome)

/-- The value of an address of four bytes; the last number takes what bytes are left. -/
def address4? (name : Text) : Option Nat := do
  let numbers ← (labels name).mapM labelNumber?
  let last ← numbers.getLast?
  let others := numbers.dropLast
  if 4 < numbers.length || others.any (255 < ·) || Nat.pow 256 (5 - numbers.length) ≤ last then none
  return others.zipIdx.foldl (fun value (number, place) => value + number * Nat.pow 256 (3 - place))
    last

def renderAddress4 (value : Nat) : Text :=
  join "." ([24, 16, 8, 0].map fun shift => Text.ofNat (value / Nat.pow 2 shift % 256))

/-- Two words: four decimal numbers without leading zeros. -/
def dottedWords? (text : Text) : Option (List Nat) := do
  let numbers ← (splitOn '.' text).mapM fun label =>
    if !label.isEmpty && label.all Char.isDigit && (label.length == 1 || label.head? != some '0')
        && digitsValue 10 label ≤ 255 then some (digitsValue 10 label)
    else none
  match numbers with
  | [a, b, c, d] => return [256 * a + b, 256 * c + d]
  | _ => none

/-- The words between colons; the last two may be written as four bytes. -/
def words? : List Text → Option (List Nat)
  | [] => some []
  | group :: rest =>
    if !group.isEmpty && group.length ≤ 4 && group.all isHexDigit then
      (words? rest).map (digitsValue 16 group :: ·)
    else if rest.isEmpty then dottedWords? group
    else none

/-- The text before and behind the first pair of colons. -/
def splitAtGap : Text → Text × Option Text
  | [] => ([], none)
  | [c] => ([c], none)
  | c :: d :: rest =>
    if c = ':' && d = ':' then ([], some rest)
    else
      let (before, behind) := splitAtGap (d :: rest)
      (c :: before, behind)

/-- An address of eight words; two colons stand for at least one word of zero. -/
def address6? (text : Text) : Option (List Nat) := do
  let groups (text : Text) : List Text := if text.isEmpty then [] else splitOn ':' text
  match splitAtGap text with
  | (_, none) =>
    let words ← words? (groups text)
    if words.length = 8 then some words else none
  | (before, some behind) =>
    let left ← words? (groups before)
    let right ← words? (groups behind)
    let size := left.length + right.length
    if 8 ≤ size || (groups before).any fun group => group.elem '.' then none
    else some (left ++ List.replicate (8 - size) 0 ++ right)

/-- The length of the run of zeros at the start. -/
def zeroRun (words : List Nat) : Nat := (words.takeWhile (· == 0)).length

/-- The place and length of the longest run of zeros; of equal ones the first. -/
def longestZeroRun : Nat → List Nat → Nat × Nat
  | _, [] => (0, 0)
  | place, word :: rest =>
    let later := longestZeroRun (place + 1) rest
    let here := zeroRun (word :: rest)
    if later.2 ≤ here then (place, here) else later

/-- Words of base sixteen with colons between them; the longest run of at least two zeros is left
out. -/
def renderAddress6 (words : List Nat) : Text :=
  let spell (words : List Nat) : Text := join ":" (words.map (Nat.toDigits 16))
  let (place, length) := longestZeroRun 0 words
  if length < 2 then '[' :: spell words ++ [']']
  else '[' :: spell (words.take place) ++ "::" ++ spell (words.drop (place + length)) ++ [']']

/-- The one spelling of a host that may be an address; `none` if there is no such host. -/
def hostName? (host : Text) : Option Text :=
  match host with
  | '[' :: inner =>
    if inner.getLast? = some ']' then (address6? inner.dropLast).map renderAddress6 else none
  | _ => do
    let name ← asciiName? (← Utf8.decode? (percentDecode host))
    if name.isEmpty then none
    else if endsInNumber name then (address4? name).map renderAddress4
    else some name

/-- The spelling of a host of which nothing is known. -/
def opaqueHost? (host : Text) : Option Text :=
  match host with
  | '[' :: _ => hostName? host
  | _ => if host.any isForbiddenInHost then none else some (percentEncode (fun _ => false) host)

end SeedCoverage.Url

import SeedCoverage.Unicode.Composition
import SeedCoverage.Unicode.Joining
import SeedCoverage.Unicode.Mapping
import SeedCoverage.Url.Punycode

/-! Host names of any characters, as names in ASCII. A label with characters outside ASCII is encoded
behind a mark; one that has the mark already must stand for a label that can be encoded. -/
namespace SeedCoverage.Url

open Text Unicode Punycode

/-- Characters that no host holds. -/
def isForbiddenInHost (c : Char) : Bool :=
  c == '\x00' || c == '\t' || c == '\n' || c == '\r' || (" #/:<>?@[\\]^|" : Text).elem c

/-- Characters that no host name holds. -/
def isForbiddenInName (c : Char) : Bool :=
  isForbiddenInHost c || c.toNat < 0x20 || c == '%' || c.toNat == 0x7F

/-- The mark of encoded labels. -/
def encodedMark : Text := "xn--"

/-- How long an encoded label may be. -/
def encodedLimit : Nat := 2000

/-- How long a label with characters outside ASCII may be. -/
def labelLimit : Nat := 1000

def isEncoded (label : Text) : Bool := encodedMark.isPrefixOf label

/-- The label that an encoded one stands for; it needs no encoding of another form. -/
def decodeLabel? (label : Text) : Option Text := do
  let code := label.drop encodedMark.length
  if !code.all isAscii || code.isEmpty || code.getLast? == some '-' || encodedLimit < code.length then
    none
  let text ← Punycode.decode? code
  if (mapText? text).map compose = some text && !isEncoded text then some text else none

/-- Whether a label may be part of a name, whatever the others are. -/
def labelFits (label : Text) : Bool :=
  !label.any isForbiddenInName && !label.head?.any isMark && joinersFit [] label &&
    (label.all isAscii || label.length ≤ labelLimit)

/-- In a name with letters from right to left the directions in every label must fit. -/
def directionsFit (labels : List Text) : Bool :=
  let directions := labels.map (List.map direction)
  !directions.any (List.any · Direction.isRightward) || directions.all Direction.fit

def encodeLabel (label : Text) : Text :=
  if label.all isAscii then label else encodedMark ++ encode label

/-- The name in ASCII that a name of any characters stands for. -/
def asciiName? (name : Text) : Option Text := do
  let mapped ← mapText? name
  let labels ← (splitOn '.' (compose mapped)).mapM fun label =>
    if isEncoded label then decodeLabel? label else some label
  if labels.all labelFits && directionsFit labels then
    some (join "." (labels.map encodeLabel))
  else none

end SeedCoverage.Url

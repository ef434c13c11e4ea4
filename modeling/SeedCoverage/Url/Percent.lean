import SeedCoverage.Text.Digits
import SeedCoverage.Text.Utf8

/-! Percent encoding: a byte as a percent sign and two digits of base sixteen. -/
namespace SeedCoverage.Url

def upperHexDigit (value : Nat) : Char := (Nat.digitChar value).toUpper

def percentByte (byte : UInt8) : Text :=
  ['%', upperHexDigit (byte.toNat / 16), upperHexDigit (byte.toNat % 16)]

/-- A text whose characters outside printable ASCII, and those that `escaped` holds of, stand as
encoded bytes. -/
def percentEncode (escaped : Char → Bool) (text : Text) : Text :=
  text.flatMap fun c =>
    if c.toNat < 0x20 || 0x7E < c.toNat || escaped c then (Utf8.encode [c]).flatMap percentByte
    else [c]

/-- A text as a name or value of a form: blanks as plus signs, and only letters, digits and
`*-._` as they are. -/
def formEncode (text : Text) : Text :=
  text.flatMap fun c =>
    if c = ' ' then ['+']
    else percentEncode (fun c => !(c.isAlphanum || ("*-._" : Text).elem c)) [c]

/-- The bytes that a text stands for. A percent sign without two digits stands for itself. -/
def percentDecode : Text → List UInt8
  | '%' :: high :: low :: rest =>
    if isHexDigit high && isHexDigit low then
      (16 * digitValue high + digitValue low).toUInt8 :: percentDecode rest
    else 0x25 :: percentDecode (high :: low :: rest)
  | c :: rest => Utf8.encode [c] ++ percentDecode rest
  | [] => []

/-- Characters that are encoded in paths. -/
def isEscapedInPath (c : Char) : Bool := (" \"#<>?\x60\x7b\x7d" : Text).elem c

end SeedCoverage.Url

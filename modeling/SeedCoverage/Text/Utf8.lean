import SeedCoverage.Text.Basic

/-! UTF-8. A reader stands between characters or inside one; where the bytes stop making sense, the
longest part that could have begun a character is one fault. -/
namespace SeedCoverage.Utf8

/-- A character under way: the bytes to come, the range of the next one, the bits so far. -/
structure Partial where
  left : Nat
  low : Nat
  high : Nat
  bits : Nat

/-- What the first byte of a character says: it is one already, or more bytes follow, or no
character begins so. -/
inductive Lead where
  | done (c : Char)
  | more (state : Partial)
  | fault

def lead (byte : Nat) : Lead :=
  if byte < 0x80 then .done (Char.ofNat byte)
  else if byte < 0xC2 then .fault
  else if byte < 0xE0 then .more ⟨1, 0x80, 0xBF, byte - 0xC0⟩
  else if byte = 0xE0 then .more ⟨2, 0xA0, 0xBF, 0⟩
  else if byte = 0xED then .more ⟨2, 0x80, 0x9F, 0xD⟩
  else if byte < 0xF0 then .more ⟨2, 0x80, 0xBF, byte - 0xE0⟩
  else if byte = 0xF0 then .more ⟨3, 0x90, 0xBF, 0⟩
  else if byte < 0xF4 then .more ⟨3, 0x80, 0xBF, byte - 0xF0⟩
  else if byte = 0xF4 then .more ⟨3, 0x80, 0x8F, 4⟩
  else .fault

/-- The characters of a run of bytes; a fault is `none`. -/
def read : Option Partial → List UInt8 → List (Option Char)
  | none, [] => []
  | some _, [] => [none]
  | none, byte :: rest =>
    match lead byte.toNat with
    | .done c => some c :: read none rest
    | .more state => read (some state) rest
    | .fault => none :: read none rest
  | some state, byte :: rest =>
    if state.low ≤ byte.toNat && byte.toNat ≤ state.high then
      let bits := 64 * state.bits + byte.toNat % 64
      if state.left = 1 then some (Char.ofNat bits) :: read none rest
      else read (some ⟨state.left - 1, 0x80, 0xBF, bits⟩) rest
    else none :: match lead byte.toNat with
      | .done c => some c :: read none rest
      | .more state => read (some state) rest
      | .fault => none :: read none rest

/-- The text of bytes that are UTF-8 throughout. -/
def decode? (bytes : List UInt8) : Option Text := (read none bytes).mapM id

/-- The text of any bytes, with a replacement character for every fault. -/
def decodeLossy (bytes : List UInt8) : Text :=
  (read none bytes).map fun c => c.getD '\ufffd'

/-- The bytes of a text. -/
def encode (text : Text) : List UInt8 := text.flatMap String.utf8EncodeChar

end SeedCoverage.Utf8

import SeedCoverage.Text.Basic

/-! Places in a text are counted in UTF-8 bytes. -/
namespace SeedCoverage.Text

/-- The number of bytes that `text` takes in UTF-8. -/
def byteSize : Text → Nat
  | [] => 0
  | c :: rest => c.utf8Size + byteSize rest

/-- The character before byte `offset` and the text from there on. An offset inside a character
stands for the end of it; past the end of the text there is nothing. -/
def seek (previous : Option Char) (offset : Nat) : Text → Option (Option Char × Text)
  | [] => if offset = 0 then some (previous, []) else none
  | c :: rest =>
    if offset = 0 then some (previous, c :: rest) else seek (some c) (offset - c.utf8Size) rest

theorem byteSize_append (left right : Text) :
    byteSize (left ++ right) = byteSize left + byteSize right := by
  induction left with
  | nil => simp [byteSize]
  | cons c rest ih => simp [byteSize, ih, Nat.add_assoc]

end SeedCoverage.Text

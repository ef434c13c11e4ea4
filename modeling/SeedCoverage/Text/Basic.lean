/-! Texts are lists of characters, so that every reader of them is a recursion on the data.
Letter case is folded in ASCII only. -/
namespace SeedCoverage

abbrev Text := List Char

instance : Coe String Text := ⟨String.toList⟩

namespace Text

/-- Every ASCII letter in lower case, all else unchanged. -/
def lower (text : Text) : Text := text.map Char.toLower

/-- Equality up to the case of ASCII letters. -/
def same (left right : Text) : Bool := lower left == lower right

/-- What follows `word` at the start of `text`, ASCII letter case aside. -/
def after? (word text : Text) : Option Text :=
  if same (text.take word.length) word then some (text.drop word.length) else none

/-- The text between each pair of neighbours is `separator`. -/
def join (separator : Text) : List Text → Text
  | [] => []
  | [only] => only
  | first :: rest => first ++ separator ++ join separator rest

/-- Every line is followed by a line feed. -/
def lines (rows : List Text) : Text := rows.flatMap fun row => row ++ ['\n']

/-- Decimal digits of a natural number. -/
def ofNat (value : Nat) : Text := Nat.toDigits 10 value

/-- Blanks on the right up to `width` characters. -/
def padRight (width : Nat) (text : Text) : Text :=
  text ++ List.replicate (width - text.length) ' '

/-- Blanks on the left up to `width` characters. -/
def padLeft (width : Nat) (text : Text) : Text :=
  List.replicate (width - text.length) ' ' ++ text

/-- `text` cut at every `mark`; there is always a first piece. -/
def splitOn (mark : Char) : Text → List Text
  | [] => [[]]
  | c :: rest =>
    if c = mark then [] :: splitOn mark rest
    else match splitOn mark rest with
      | [] => [[c]]
      | piece :: pieces => (c :: piece) :: pieces

/-- `text` without the characters that `drop` holds of at its end. -/
def dropEndWhile (drop : Char → Bool) (text : Text) : Text :=
  (text.reverse.dropWhile drop).reverse

/-- Whether `part` occurs in `text`. -/
def includes (text part : Text) : Bool :=
  part.isPrefixOf text || match text with
    | [] => false
    | _ :: rest => includes rest part

/-- What holds of every character of a text is decided by going through the text. -/
instance (priority := high) decidableAll (text : Text) (p : Char → Prop) [DecidablePred p] :
    Decidable (∀ c ∈ text, p c) :=
  List.decidableBAll p text

instance (priority := high) decidableAllOption (next : Option Char) (p : Char → Prop)
    [DecidablePred p] : Decidable (∀ c ∈ next, p c) :=
  Option.decidableForallMem next

theorem same_refl (text : Text) : same text text = true := by simp [same]

theorem same_comm (left right : Text) : same left right = same right left := by
  simp only [same, Bool.beq_comm]

theorem length_lower (text : Text) : (lower text).length = text.length := by simp [lower]

end Text
end SeedCoverage

import SeedCoverage.Text.Basic

/-! Labels in letters and digits only. The characters outside ASCII are left out and said behind the
others: for each, in the order of their codes, how many places and codes are passed over since the one
before. These numbers have digits of base 36, the least first; a digit below a threshold is the last
one, and the thresholds follow the size of the numbers. -/
namespace SeedCoverage.Url.Punycode

open Text

/-- Numbers have at most 32 bits. -/
def numberLimit : Nat := Nat.pow 2 32 - 1

/-- The first code outside ASCII. -/
def firstCode : Nat := 0x80

def firstBias : Nat := 72

def isAscii (c : Char) : Bool := c.toNat < firstCode

/-- The value of a letter or digit. -/
def digit? (c : Char) : Option Nat :=
  if 'a' ≤ c && c ≤ 'z' then some (c.toNat - 'a'.toNat)
  else if '0' ≤ c && c ≤ '9' then some (c.toNat - '0'.toNat + 26)
  else none

def digitChar (value : Nat) : Char :=
  Char.ofNat (if value < 26 then 'a'.toNat + value else '0'.toNat + (value - 26))

/-- The threshold of the digit at a position: 36 for the first one, 72 for the second and so on. -/
def threshold (bias position : Nat) : Nat := min (max (position - bias) 1) 26

theorem threshold_pos (bias position : Nat) : 1 ≤ threshold bias position := by
  unfold threshold
  omega

theorem threshold_le (bias position : Nat) : threshold bias position ≤ 26 := by
  unfold threshold
  omega

/-- A number brought down to at most 455 by divisions by 35, with 36 counted for each. -/
def reduce (number counted : Nat) : Nat × Nat :=
  if 455 < number then reduce (number / 35) (counted + 36) else (number, counted)
termination_by number
decreasing_by exact Nat.div_lt_self (by omega) (by omega)

/-- The bias behind a number, when there are `length` characters; the first number counts less. -/
def nextBias (number length : Nat) (first : Bool) : Nat :=
  let damped := number / (if first then 700 else 2)
  let (reduced, counted) := reduce (damped + damped / length) 0
  counted + 36 * reduced / (reduced + 38)

/-! ### Decoding -/

/-- A number added to `sum`, and what follows it. -/
def addNumber? (bias : Nat) : (position weight sum : Nat) → Text → Option (Nat × Text)
  | _, _, _, [] => none
  | position, weight, sum, c :: rest => do
    let digit ← digit? c
    let sum := sum + digit * weight
    if numberLimit < sum then none
    let limit := threshold bias position
    if digit < limit then return (sum, rest)
    if numberLimit < weight * (36 - limit) then none
    addNumber? bias (position + 36) (weight * (36 - limit)) sum rest

theorem addNumber?_length {bias position weight sum : Nat} {text : Text} {read : Nat × Text}
    (h : addNumber? bias position weight sum text = some read) : read.2.length < text.length := by
  induction text generalizing position weight sum with
  | nil => simp [addNumber?] at h
  | cons c rest ih =>
    simp only [addNumber?, Option.bind_eq_bind, Option.bind_eq_some_iff] at h
    obtain ⟨digit, _, h⟩ := h
    split at h
    · simp at h
    · split at h
      · obtain rfl : _ = read := Option.some.inj h
        simp
      · split at h
        · simp at h
        · have := ih h
          simp only [List.length_cons]
          omega

/-- Puts the characters that the numbers say into a text; the next one comes to stand at or behind
`place` and has a code of at least `code`. -/
def insertAll? (bias code place : Nat) (text numbers : Text) : Option Text :=
  match numbers with
  | [] => some text
  | c :: rest =>
    match read : addNumber? bias 36 1 place (c :: rest) with
    | none => none
    | some (sum, others) =>
      have : others.length < (c :: rest).length := addNumber?_length read
      let length := text.length + 1
      let code := code + sum / length
      let place' := sum % length
      if !code.isValidChar then none
      else insertAll? (nextBias (sum - place) length (place == 0)) code (place' + 1)
        (text.take place' ++ Char.ofNat code :: text.drop place') others
termination_by numbers.length
decreasing_by exact this

/-- The text that a label without its mark stands for. What is in ASCII stands before the last
hyphen. -/
def decode? (label : Text) : Option Text :=
  let numbers := (label.reverse.takeWhile (· != '-')).reverse
  let before := label.take (label.length - numbers.length)
  if before = ['-'] then none else insertAll? firstBias firstCode 0 before.dropLast numbers

/-! ### Encoding -/

/-- The digits of a number from a position on. -/
def spellNumber (bias position number : Nat) : Text :=
  let limit := threshold bias position
  if number < limit then [digitChar number]
  else
    digitChar (limit + (number - limit) % (36 - limit)) ::
      spellNumber bias (position + 36) ((number - limit) / (36 - limit))
termination_by number
decreasing_by
  have := threshold_pos bias position
  have := Nat.div_le_self (number - threshold bias position) (36 - threshold bias position)
  omega

/-- Encoding between two characters: the number so far, the bias, how many characters are said, and
the spelling. -/
structure Draft where
  number : Nat := 0
  bias : Nat := firstBias
  said : Nat
  spelled : Text := []

/-- Passes over a character, or says it if it has the code that is due. -/
def Draft.pass (ascii code : Nat) (draft : Draft) (c : Char) : Draft :=
  if c.toNat < code then { draft with number := draft.number + 1 }
  else if c.toNat = code then {
    number := 0
    bias := nextBias draft.number (draft.said + 1) (draft.said == ascii)
    said := draft.said + 1
    spelled := draft.spelled ++ spellNumber draft.bias 36 draft.number }
  else draft

/-- Says all characters of the codes that are left, each of which is at least `least`. -/
def sayAll (text : Text) (ascii least : Nat) (draft : Draft) : List Nat → Text
  | [] => draft.spelled
  | code :: rest =>
    let reached := { draft with number := draft.number + (code - least) * (draft.said + 1) }
    let passed := text.foldl (Draft.pass ascii code) reached
    sayAll text ascii (code + 1) { passed with number := passed.number + 1 } rest

/-- The label of a text, without the mark of such labels. -/
def encode (text : Text) : Text :=
  let ascii := text.filter isAscii
  let codes := (((text.filter fun c => !isAscii c).map Char.toNat).mergeSort).eraseReps
  (if ascii.isEmpty then [] else ascii ++ ['-']) ++
    sayAll text ascii.length firstCode { said := ascii.length } codes

end SeedCoverage.Url.Punycode

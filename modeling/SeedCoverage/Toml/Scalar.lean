import SeedCoverage.Toml.Basic

/-! Values without quotes: truth values, whole numbers, floats, dates and times. -/
namespace SeedCoverage.Toml

/-- The digits of a number, without the underscores between them. -/
def digits? (isDigit : Char → Bool) (behindDigit : Bool) : Text → Option Text
  | [] => if behindDigit then some [] else none
  | c :: rest =>
    if isDigit c then (digits? isDigit true rest).map (c :: ·)
    else if c == '_' && behindDigit then digits? isDigit false rest
    else none

/-- Decimal digits, with no zero before others. -/
def decimal? (text : Text) : Option Text :=
  (digits? Char.isDigit false text).filter fun digits =>
    digits.length == 1 || digits.head? != some '0'

/-- The sign of a number as a factor, and the rest of it. -/
def signed (text : Text) : Int × Text :=
  match text with
  | '-' :: rest => (-1, rest)
  | '+' :: rest => (1, rest)
  | _ => (1, text)

/-- A whole number; only a decimal one may have a sign. -/
def integer? (text : Text) : Option Int :=
  match text with
  | '0' :: 'x' :: rest => (digits? isHexDigit false rest).map fun digits => digitsValue 16 digits
  | '0' :: 'o' :: rest => (digits? isOctalDigit false rest).map fun digits => digitsValue 8 digits
  | '0' :: 'b' :: rest => (digits? isBinaryDigit false rest).map fun digits => digitsValue 2 digits
  | _ =>
    let (sign, size) := signed text
    (decimal? size).map fun digits => sign * digitsValue 10 digits

/-- Integers of 128 bits, with or without a sign bit. -/
def isRepresentable (value : Int) : Bool := -(Nat.pow 2 127 : Int) ≤ value && value < Nat.pow 2 128

/-- Without its sign, a number with a point or an exponent, in the range of doubles. -/
def fraction? (text : Text) : Option Double := do
  let isMark (c : Char) : Bool := c == 'e' || c == 'E'
  let significand := text.takeWhile fun c => !isMark c
  let power := text.dropWhile fun c => !isMark c
  let whole ← decimal? (significand.takeWhile (· != '.'))
  let part ← match significand.dropWhile (· != '.') with
    | [] => some []
    | _ :: digits => digits? Char.isDigit false digits
  let exponent ← match power with
    | [] => some 0
    | _ :: rest =>
      let (sign, size) := signed rest
      (digits? Char.isDigit false size).map fun digits => sign * digitsValue 10 digits
  if part.isEmpty && power.isEmpty then none
  let number : Decimal := ⟨digitsValue 10 (whole ++ part), exponent - part.length⟩
  if number.inRange then some number.toDouble else none

def float? (text : Text) : Option Double :=
  let (sign, size) := signed text
  let value? : Option Double :=
    if size = ("inf" : Text) then some .infinity
    else if size = ("nan" : Text) then some .nan
    else fraction? size
  value?.map fun value => if sign < 0 then value.negate else value

/-- A number of exactly `width` digits, and what follows. -/
def fixed? (width : Nat) (text : Text) : Option (Nat × Text) :=
  let digits := text.take width
  if digits.length = width && digits.all Char.isDigit then
    some (digitsValue 10 digits, text.drop width)
  else none

/-- A certain character, and what follows. -/
def expect? (c : Char) : Text → Option Text
  | [] => none
  | d :: rest => if c = d then some rest else none

/-- The days of a month. -/
def monthLength (year month : Nat) : Nat :=
  if month = 2 then
    if year % 4 = 0 && (year % 100 != 0 || year % 400 == 0) then 29 else 28
  else if month = 4 || month = 6 || month = 9 || month = 11 then 30
  else 31

/-- What follows a date that exists. -/
def afterDate? (text : Text) : Option Text := do
  let (year, rest) ← fixed? 4 text
  let (month, rest) ← fixed? 2 (← expect? '-' rest)
  let (day, rest) ← fixed? 2 (← expect? '-' rest)
  if 1 ≤ month && month ≤ 12 && 1 ≤ day && day ≤ monthLength year month then some rest else none

/-- What follows a time of day; seconds, and fractions of them, may be left out. -/
def afterTime? (text : Text) : Option Text := do
  let (hour, rest) ← fixed? 2 text
  let (minute, rest) ← fixed? 2 (← expect? ':' rest)
  if 23 < hour || 59 < minute then none
  match rest with
  | ':' :: rest =>
    let (second, rest) ← fixed? 2 rest
    if 60 < second then none
    match rest with
    | '.' :: rest =>
      if (rest.head?.any Char.isDigit) then some (rest.dropWhile Char.isDigit) else none
    | _ => some rest
  | _ => some rest

/-- What follows an offset from universal time, if there is one. -/
def afterOffset? (text : Text) : Option Text :=
  match text with
  | 'Z' :: rest | 'z' :: rest => some rest
  | '+' :: rest | '-' :: rest => do
    let (hour, rest) ← fixed? 2 rest
    let (minute, rest) ← fixed? 2 (← expect? ':' rest)
    if hour ≤ 23 && minute ≤ 59 then some rest else none
  | _ => some text

/-- A date, a time, or a date with a time and perhaps an offset. -/
def isDateTime (text : Text) : Bool :=
  match afterDate? text with
  | none => (afterTime? text).any List.isEmpty
  | some [] => true
  | some (mark :: rest) =>
    (mark == 'T' || mark == 't' || mark == ' ') &&
      ((afterTime? rest).bind afterOffset?).any List.isEmpty

/-- The value of a token without quotes. -/
def scalar? (token : Text) : Option Toml :=
  if token = ("true" : Text) then some (.boolean true)
  else if token = ("false" : Text) then some (.boolean false)
  else match integer? token, float? token with
    | some value, _ => if isRepresentable value then some (.integer value) else none
    | none, some value => some (.float value)
    | none, none => if isDateTime token then some .dateTime else none

def isTokenChar (c : Char) : Bool := c.isAlphanum || ("_-+.:" : Text).elem c

/-- The token at the start of `text`. A time may follow its date behind one blank. -/
def token (text : Text) : Text × Text :=
  let first := text.takeWhile isTokenChar
  let rest := text.dropWhile isTokenChar
  match rest with
  | ' ' :: c :: more =>
    if c.isDigit && afterDate? first == some [] then
      (first ++ ' ' :: (c :: more).takeWhile isTokenChar, (c :: more).dropWhile isTokenChar)
    else (first, rest)
  | _ => (first, rest)

end SeedCoverage.Toml

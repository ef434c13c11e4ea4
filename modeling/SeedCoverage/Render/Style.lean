import SeedCoverage.Text.Basic

/-! Terminal colours. A styled text stands between an opening code and a reset; where it holds a
reset of its own, the opening code comes again. -/
namespace SeedCoverage.Render

inductive Style where
  | bold
  | dimmed
  | green
  | yellow
  | red
  | boldYellow
  | boldCyan
  deriving DecidableEq, Repr

/-- The parameters of the opening code. -/
def Style.parameters : Style → Text
  | .bold => "1"
  | .dimmed => "2"
  | .green => "32"
  | .yellow => "33"
  | .red => "31"
  | .boldYellow => "1;33"
  | .boldCyan => "1;36"

/-- A control sequence that selects a rendition. -/
def sequence (parameters : Text) : Text := '\x1b' :: '[' :: parameters ++ ['m']

def reset : Text := sequence "0"

/-- `code` behind every reset in a text. -/
def reopen (code : Text) : Text → Text
  | [] => []
  | c :: rest =>
    if reset.isPrefixOf (c :: rest) then c :: reopenAfter code 3 rest
    else c :: reopen code rest
where
  /-- Copies the rest of a reset, then `code`. -/
  reopenAfter (code : Text) : Nat → Text → Text
    | _, [] => code
    | 0, text => code ++ reopen code text
    | left + 1, c :: rest => c :: reopenAfter code left rest

/-- A text in a style, where colours are on. -/
def paint (colored : Bool) (style : Style) (text : Text) : Text :=
  if colored then
    sequence style.parameters ++ reopen (sequence style.parameters) text ++ reset
  else text

end SeedCoverage.Render

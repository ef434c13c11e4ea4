import SeedCoverage.Text.Offset
import SeedCoverage.Sql.State

/-! One reading of SQL text, left to right. Two single quotes in a row outside a double-quoted
identifier are one step that changes nothing. Searches are list functions over the steps. -/
namespace SeedCoverage.Sql

/-- What one step reads. -/
inductive Lexeme where
  | char (c : Char)
  /-- Two single quotes that stand for one. -/
  | quotePair
  /-- A delimiter at the top level, passed over without being read as syntax. -/
  | cut (c : Char)
  deriving DecidableEq, Repr

def Lexeme.text : Lexeme → Text
  | .char c => [c]
  | .quotePair => ['\'', '\'']
  | .cut c => [c]

def Lexeme.isCut : Lexeme → Bool
  | .cut _ => true
  | _ => false

def State.after (state : State) : Lexeme → State
  | .char c => state.read c
  | _ => state

/-- The step to take at `c`, with `next` behind it. -/
def Lexeme.at (delimiter : Option Char) (state : State) (c : Char) (next : Option Char) : Lexeme :=
  if state.atTop && delimiter == some c then .cut c
  else if c == '\'' && next == some '\'' && state.quote != .double then .quotePair
  else .char c

/-- One step: the state and the character before it, what it reads, and what is left. -/
structure Step where
  state : State
  previous : Option Char
  lexeme : Lexeme
  rest : Text
  deriving DecidableEq, Repr

namespace Step

/-- The state behind the step. -/
def next (step : Step) : State := step.state.after step.lexeme

/-- The text from the step on. -/
def ahead (step : Step) : Text := step.lexeme.text ++ step.rest

/-- The character that the step reads by itself. -/
def isChar (c : Char) (step : Step) : Bool := step.lexeme == .char c

/-- What stands before the step in the text that was scanned. -/
def before (text : Text) (step : Step) : Text := text.take (text.length - step.ahead.length)

/-- A closing parenthesis outside quotes that leaves no parenthesis open. -/
def closesAll (step : Step) : Bool := step.isChar ')' && step.next.outsideParens

end Step

/-- Every step of a reading that begins in `state`, with `previous` before the text. Where a
`delimiter` is given, it cuts at the top level. -/
def scan (delimiter : Option Char) (state : State) (previous : Option Char) : Text → List Step
  | [] => []
  | [c] => [⟨state, previous, Lexeme.at delimiter state c none, []⟩]
  | c :: d :: rest =>
    match Lexeme.at delimiter state c (some d) with
    | .quotePair => ⟨state, previous, .quotePair, rest⟩ :: scan delimiter state (some d) rest
    | lexeme =>
      ⟨state, previous, lexeme, d :: rest⟩ ::
        scan delimiter (state.after lexeme) (some c) (d :: rest)

/-- The steps of a fresh reading. -/
def steps (text : Text) : List Step := scan none .start none text

/-- The text that a run of steps reads. -/
def stepsText (run : List Step) : Text := run.flatMap fun step => step.lexeme.text

/-- Where a byte of the text is read: its offset, how many bytes go with it, the state behind it. -/
structure TracePoint where
  offset : Nat
  consumed : Nat
  state : State

/-- Every byte of a step is a point of its own, save that a doubled quote is one point of two bytes. -/
def tracePoints (offset : Nat) : List Step → List TracePoint
  | [] => []
  | step :: rest =>
    match step.lexeme with
    | .quotePair => ⟨offset, 2, step.next⟩ :: tracePoints (offset + 2) rest
    | .char c | .cut c =>
      ((List.range c.utf8Size).map fun byte => ⟨offset + byte, 1, step.next⟩) ++
        tracePoints (offset + c.utf8Size) rest

/-- The points of a fresh reading. -/
def trace (text : Text) : List TracePoint := tracePoints 0 (steps text)

theorem Lexeme.eq_quotes_of_pair {delimiter : Option Char} {state : State} {c d : Char}
    (pair : Lexeme.at delimiter state c (some d) = .quotePair) : c = '\'' ∧ d = '\'' := by
  unfold Lexeme.at at pair
  split at pair
  · cases pair
  · split at pair
    · rename_i quotes
      simp only [Bool.and_eq_true, beq_iff_eq, Option.some.injEq] at quotes
      exact quotes.1
    · cases pair

theorem Lexeme.text_at {delimiter : Option Char} {state : State} {c : Char} {next : Option Char}
    (single : Lexeme.at delimiter state c next ≠ .quotePair) :
    (Lexeme.at delimiter state c next).text = [c] := by
  unfold Lexeme.at at single ⊢
  split
  · rfl
  · split
    · simp_all
    · rfl

/-- A reading loses nothing. -/
theorem stepsText_scan (delimiter : Option Char) (state : State) (previous : Option Char)
    (text : Text) : stepsText (scan delimiter state previous text) = text := by
  fun_induction scan delimiter state previous text with
  | case1 => rfl
  | case2 state previous c =>
    have one : (Lexeme.at delimiter state c none).text = [c] :=
      Lexeme.text_at (by unfold Lexeme.at; split <;> simp)
    simp [stepsText, one]
  | case3 state previous c d rest pair ih =>
    rcases Lexeme.eq_quotes_of_pair pair with ⟨rfl, rfl⟩
    simpa [stepsText, Lexeme.text] using ih
  | case4 state previous c d rest single ih =>
    have one := Lexeme.text_at single
    simp only [stepsText, List.flatMap_cons] at ih ⊢
    rw [ih, one]
    rfl

end SeedCoverage.Sql

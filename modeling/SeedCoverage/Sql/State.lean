/-! What is open at a place in SQL text: a quote, and the depths of parentheses and brackets.
A closer that nothing opened leaves its depth at zero. -/
namespace SeedCoverage.Sql

/-- Outside quotes, in a single-quoted string, or in a double-quoted identifier. -/
inductive Quote where
  | code
  | single
  | double
  deriving DecidableEq, Repr

/-- A quotation mark of the kind that is not open counts as content. -/
def Quote.read : Quote → Char → Quote
  | .code, c => if c = '\'' then .single else if c = '"' then .double else .code
  | .single, c => if c = '\'' then .code else .single
  | .double, c => if c = '"' then .code else .double

structure State where
  quote : Quote := .code
  parens : Nat := 0
  brackets : Nat := 0
  deriving DecidableEq, Repr

namespace State

/-- Nothing open. -/
def start : State := {}

def inQuotes (state : State) : Bool := state.quote != .code

/-- Outside quotes and outside parentheses; brackets are not looked at. -/
def outsideParens (state : State) : Bool := !state.inQuotes && state.parens == 0

/-- Outside quotes, parentheses and brackets. -/
def atTop (state : State) : Bool := state.outsideParens && state.brackets == 0

/-- The state after one character that is not half of a doubled quote. -/
def read (state : State) (c : Char) : State :=
  match state.quote with
  | .code =>
    if c = '(' then { state with parens := state.parens + 1 }
    else if c = ')' then { state with parens := state.parens - 1 }
    else if c = '[' then { state with brackets := state.brackets + 1 }
    else if c = ']' then { state with brackets := state.brackets - 1 }
    else { state with quote := Quote.code.read c }
  | quote => { state with quote := quote.read c }

theorem atTop_iff (state : State) : state.atTop = true ↔ state = start := by
  rcases state with ⟨quote, parens, brackets⟩
  cases quote <;> simp [atTop, outsideParens, inQuotes, start]

end State
end SeedCoverage.Sql

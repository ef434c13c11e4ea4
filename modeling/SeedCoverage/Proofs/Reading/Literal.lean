import SeedCoverage.Proofs.Reading.Balanced
import SeedCoverage.Sql.Literal

/-! Reading a string literal. Whatever its content is, it ends where it was written to end: quotes in
the content come in pairs, also where the first pair takes the quote that opens the literal. -/
namespace SeedCoverage.Sql

theorem escape_cons (c : Char) (content : Text) :
    escape (c :: content) = (if c = '\'' then ['\'', '\''] else [c]) ++ escape content := by
  simp [escape]

/-- Inside a string. -/
def State.string (state : State) : State := { state with quote := .single }

@[simp] theorem State.string_inQuotes (state : State) : state.string.inQuotes = true := rfl

@[simp] theorem State.string_atTop (state : State) : state.string.atTop = false := rfl

variable {allowed : State → Lexeme → Prop} {state : State}

private theorem reads_content (unquoted : state.quote = .code)
    (inside : ∀ lexeme, allowed state.string lexeme) (content : Text) :
    Reads allowed state.string (escape content ++ ['\'']) state := by
  induction content with
  | nil =>
    have closed : state.string.read '\'' = state := by
      cases state
      simp_all [State.string, State.read, Quote.read]
    exact .cons (by simp [Lexeme.at, State.string]) (inside _) (closed.symm ▸ .nil)
  | cons c content ih =>
    rw [escape_cons]
    split
    · subst c
      exact .pair (by simp [State.string]) (inside _) ih
    · rename_i plain
      have open' : state.string.read c = state.string := by
        simp [State.string, State.read, Quote.read, plain]
      exact .cons (Lexeme.at_char plain) (inside _) (open'.symm ▸ ih)

theorem Reads.quote (unquoted : state.quote = .code) (mark : allowed state (.char '\''))
    (pair : allowed state .quotePair) (inside : ∀ lexeme, allowed state.string lexeme)
    (content : Text) : Reads allowed state (Sql.quote content) state := by
  have outside : state.quote ≠ .double := by simp [unquoted]
  induction content with
  | nil => exact .pair outside pair .nil
  | cons c content ih =>
    rw [Sql.quote, escape_cons]
    split
    · subst c
      exact .pair outside pair ih
    · rename_i plain
      have opened : state.read '\'' = state.string := by
        simp [State.read, unquoted, Quote.read, State.string]
      have rest := reads_content unquoted inside (c :: content)
      rw [escape_cons, if_neg plain] at rest
      exact .cons (by simp [Lexeme.at, plain]) mark (opened.symm ▸ rest)

end SeedCoverage.Sql

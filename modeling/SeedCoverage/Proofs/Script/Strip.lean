import SeedCoverage.Proofs.Reading.Balanced
import SeedCoverage.Sql.Comment

/-! Where comments are and where none is. A line feed after a text that leaves no string and no block
comment open parts what is stripped before it from what is stripped behind it. -/
namespace SeedCoverage.Sql

/-- The region that a text ends in. -/
def Region.after : Region → Text → Region
  | region, [] => region
  | .sql quote, [c] => .sql (quote.read c)
  | .lineComment, [c] => if c = '\n' then .sql .code else .lineComment
  | .blockComment, [_] => .blockComment
  | .sql quote, c :: d :: rest =>
    if quote = .code ∧ c = '-' ∧ d = '-' then after .lineComment (d :: rest)
    else if quote = .code ∧ c = '/' ∧ d = '*' then after .blockComment rest
    else if quote ≠ .double ∧ c = '\'' ∧ d = '\'' then after (.sql quote) rest
    else after (.sql (quote.read c)) (d :: rest)
  | .lineComment, c :: d :: rest =>
    if c = '\n' then after (.sql .code) (d :: rest) else after .lineComment (d :: rest)
  | .blockComment, c :: d :: rest =>
    if c = '*' ∧ d = '/' then after (.sql .code) rest else after .blockComment (d :: rest)

/-- Two characters that are one sign outside comments. -/
def Fuse (first second : Char) : Prop :=
  (first = '-' ∧ second = '-') ∨ (first = '/' ∧ second = '*') ∨ (first = '\'' ∧ second = '\'')

/-- No such sign stands across the seam. -/
def Parted (left right : Text) : Prop :=
  ∀ first ∈ left.getLast?, ∀ second ∈ right.head?, ¬Fuse first second

section Seam

variable {region : Region} {left right : Text} {c d : Char} {rest : Text}

theorem Parted.tail (parted : Parted (c :: d :: rest) right) : Parted (d :: rest) right := by
  simpa [Parted] using parted

theorem Parted.drop_pair (parted : Parted (c :: d :: rest) right) : Parted rest right := by
  cases rest with
  | nil => simp [Parted]
  | cons e rest => exact parted.tail.tail

theorem Parted.of_plain (plain : c ≠ '-' ∧ c ≠ '*' ∧ c ≠ '\'') (left rest : Text) :
    Parted left (c :: rest) := by
  intro first _ second head fuse
  obtain rfl : c = second := Option.some.inj head
  rcases fuse with ⟨_, dash⟩ | ⟨_, star⟩ | ⟨_, quote⟩
  · exact plain.1 dash
  · exact plain.2.1 star
  · exact plain.2.2 quote

/-- Stripping goes on over a seam where it stopped, if no sign stands across it: none that begins or
ends a comment, and no pair of quotes. -/
theorem stripFrom_append_parted (parted : Parted left right)
    (closed : region.after left = .blockComment → right.head? ≠ some '/') :
    stripFrom region (left ++ right) =
      stripFrom region left ++ stripFrom (region.after left) right := by
  fun_induction Region.after region left with
  | case1 region => cases region <;> simp [stripFrom]
  | case2 quote c =>
    cases right with
    | nil => simp [stripFrom]
    | cons d rest =>
      have apart : ¬Fuse c d := parted c rfl d rfl
      simp only [Fuse, not_or] at apart
      obtain ⟨line, block, pair⟩ := apart
      simp only [List.cons_append, List.nil_append, stripFrom]
      rw [if_neg fun sign => line sign.2, if_neg fun sign => block sign.2,
        if_neg fun sign => pair sign.2]
  | case3 => cases right <;> simp [stripFrom]
  | case4 c inside => cases right <;> simp [stripFrom, inside]
  | case5 c =>
    cases right with
    | nil => simp [stripFrom]
    | cons d rest =>
      have other : ¬(c = '*' ∧ d = '/') := fun both => closed rfl (congrArg some both.2)
      simp [stripFrom, other]
  | case6 quote c d rest line ih =>
    simp only [List.cons_append, stripFrom, if_pos line] at ih ⊢
    exact ih parted.tail closed
  | case7 quote c d rest line block ih =>
    simp only [List.cons_append, stripFrom, if_neg line, if_pos block, ih parted.drop_pair closed]
  | case8 quote c d rest line block pair ih =>
    simp only [List.cons_append, stripFrom, if_neg line, if_neg block, if_pos pair,
      ih parted.drop_pair closed]
  | case9 quote c d rest line block single ih =>
    have later := ih parted.tail closed
    simp only [List.cons_append] at later
    simp only [List.cons_append, stripFrom, if_neg line, if_neg block, if_neg single, later]
  | case10 d rest ih =>
    have later := ih parted.tail closed
    simp_all [stripFrom]
  | case11 c d rest inside ih =>
    have later := ih parted.tail closed
    simp_all [stripFrom]
  | case12 c d rest closes ih =>
    simp only [List.cons_append, stripFrom, if_pos closes, ih parted.drop_pair closed]
  | case13 c d rest inside ih =>
    have later := ih parted.tail closed
    simp only [List.cons_append] at later
    simp only [List.cons_append, stripFrom, if_neg inside, later]

end Seam

/-- A line feed belongs to no sign, so that nothing is read across the seam before it. -/
theorem stripFrom_append (region : Region) (left right : Text) :
    stripFrom region (left ++ '\n' :: right) =
      stripFrom region left ++ stripFrom (region.after left) ('\n' :: right) :=
  stripFrom_append_parted (.of_plain (by decide) left right) (by simp)

theorem stripFrom_newline {region : Region} (ends : region = .sql .code ∨ region = .lineComment)
    (text : Text) : stripFrom region ('\n' :: text) = '\n' :: stripFrom (.sql .code) text := by
  rcases ends with rfl | rfl <;> cases text <;> simp [stripFrom, Quote.read]

/-- Comments go the same way in two lines of text as in each of them. -/
theorem stripComments_append {left : Text}
    (ends : (Region.sql .code).after left = .sql .code ∨
      (Region.sql .code).after left = .lineComment) (right : Text) :
    stripComments (left ++ '\n' :: right) = stripComments left ++ '\n' :: stripComments right := by
  rw [stripComments, stripFrom_append, stripFrom_newline ends]
  rfl

/-- Outside quotes, no mark with which a comment begins. -/
def bare (state : State) (lexeme : Lexeme) : Prop :=
  state.quote = .code → lexeme ≠ .char '-' ∧ lexeme ≠ .char '/'

instance (state : State) (lexeme : Lexeme) : Decidable (bare state lexeme) :=
  inferInstanceAs (Decidable (_ → _))

theorem quote_read (state : State) (c : Char) : (state.read c).quote = state.quote.read c := by
  rcases state with ⟨quote, parens, brackets⟩
  cases quote with
  | code => simp only [State.read]; grind [Quote.read]
  | single => rfl
  | double => rfl

theorem stripFrom_eq_self {state : State} {previous : Option Char} {text : Text}
    (each : ∀ step ∈ scan none state previous text, bare step.state step.lexeme) :
    stripFrom (.sql state.quote) text = text := by
  fun_induction scan none state previous text with
  | case1 => rfl
  | case2 => rfl
  | case3 state previous c d rest pair ih =>
    obtain ⟨rfl, rfl⟩ := Lexeme.eq_quotes_of_pair pair
    have unquoted : state.quote ≠ .double := by
      intro double
      simp [Lexeme.at, double] at pair
    have later := ih fun step member => each step (by simp [member])
    simp [stripFrom, unquoted, later]
  | case4 state previous c d rest single ih =>
    have later := ih fun step member => each step (by simp [member])
    have here := each _ List.mem_cons_self
    have pairless : ¬(state.quote ≠ .double ∧ c = '\'' ∧ d = '\'') := by
      rintro ⟨unquoted, rfl, rfl⟩
      exact single (by simp [Lexeme.at, unquoted])
    have read : Lexeme.at none state c (some d) = .char c := by
      unfold Lexeme.at at single ⊢
      simp_all
    rw [read] at here later
    have line : ¬(state.quote = .code ∧ c = '-' ∧ d = '-') := by
      rintro ⟨code, rfl, _⟩
      exact (here code).1 rfl
    have block : ¬(state.quote = .code ∧ c = '/' ∧ d = '*') := by
      rintro ⟨code, rfl, _⟩
      exact (here code).2 rfl
    rw [stripFrom, if_neg line, if_neg block, if_neg pairless, ← quote_read]
    exact congrArg _ later

end SeedCoverage.Sql

import SeedCoverage.Sql.Scan

/-! Reading a text that is put together from two. The steps of the left part stay what they are and
the right part is read from what the left one leaves open; only a pair of single quotes with one
half on either side of the seam would change that. -/
namespace SeedCoverage.Sql

/-- No pair of single quotes stands across the seam. -/
def Apart (left right : Text) : Prop := left.getLast? = some '\'' → right.head? ≠ some '\''

/-- The last character of `text`, or the one before it. -/
def lastChar (previous : Option Char) (text : Text) : Option Char := text.getLast?.or previous

/-- What is open behind `text`. -/
def State.afterText (delimiter : Option Char) (state : State) : Text → State
  | [] => state
  | [c] => state.after (Lexeme.at delimiter state c none)
  | c :: d :: rest =>
    match Lexeme.at delimiter state c (some d) with
    | .quotePair => afterText delimiter state rest
    | lexeme => afterText delimiter (state.after lexeme) (d :: rest)

/-- The same step with more text behind it. -/
def Step.extend (more : Text) (step : Step) : Step := { step with rest := step.rest ++ more }

namespace Step

variable (more : Text) (step : Step)

@[simp] theorem extend_state : (step.extend more).state = step.state := rfl

@[simp] theorem extend_previous : (step.extend more).previous = step.previous := rfl

@[simp] theorem extend_lexeme : (step.extend more).lexeme = step.lexeme := rfl

@[simp] theorem extend_next : (step.extend more).next = step.next := rfl

@[simp] theorem extend_ahead : (step.extend more).ahead = step.ahead ++ more := by
  simp [ahead, extend]

@[simp] theorem extend_isChar (c : Char) : (step.extend more).isChar c = step.isChar c := rfl

@[simp] theorem extend_closesAll : (step.extend more).closesAll = step.closesAll := rfl

end Step

theorem stepsText_extend (more : Text) (run : List Step) :
    stepsText (run.map (Step.extend more)) = stepsText run := by
  simp [stepsText, List.flatMap_map]

theorem Apart.of_head {left right : Text} (h : right.head? ≠ some '\'') : Apart left right :=
  fun _ => h

theorem Apart.of_last {left right : Text} (h : left.getLast? ≠ some '\'') : Apart left right :=
  fun last => absurd last h

theorem Apart.tail {c d : Char} {rest right : Text} (apart : Apart (c :: d :: rest) right) :
    Apart (d :: rest) right := by
  simpa [Apart] using apart

theorem Apart.drop_pair {c d : Char} {rest right : Text} (apart : Apart (c :: d :: rest) right) :
    Apart rest right := by
  cases rest with
  | nil => exact .of_last (by simp)
  | cons e rest => exact apart.tail.tail

theorem lastChar_cons (previous : Option Char) (c : Char) (text : Text) :
    lastChar previous (c :: text) = lastChar (some c) text := by
  cases text with
  | nil => rfl
  | cons d rest => simp [lastChar, List.getLast?_cons]

namespace Lexeme

/-- The character behind matters only where it is the other half of a pair. -/
theorem at_next {delimiter : Option Char} {state : State} {c d : Char}
    (apart : ¬(c = '\'' ∧ d = '\'')) :
    Lexeme.at delimiter state c (some d) = Lexeme.at delimiter state c none := by
  unfold Lexeme.at
  split
  · rfl
  · split
    · rename_i quotes
      simp only [Bool.and_eq_true, beq_iff_eq, Option.some.injEq] at quotes
      exact absurd quotes.1 apart
    · simp

theorem at_none_ne_pair {delimiter : Option Char} {state : State} {c : Char} :
    Lexeme.at delimiter state c none ≠ .quotePair := by
  unfold Lexeme.at
  split <;> simp

theorem at_char {state : State} {c : Char} {next : Option Char} (plain : c ≠ '\'') :
    Lexeme.at none state c next = .char c := by
  simp [Lexeme.at, plain]

theorem at_of_single {state : State} {c : Char} {next : Option Char}
    (single : Lexeme.at none state c next ≠ .quotePair) : Lexeme.at none state c next = .char c := by
  by_cases quote : c = '\''
  · simp only [Lexeme.at] at single ⊢
    split
    · rename_i here
      simp at here
    · split
      · rename_i uncut pair
        rw [if_neg uncut, if_pos pair] at single
        exact absurd rfl single
      · rfl
  · exact at_char quote

end Lexeme

section Cons

variable {delimiter : Option Char} {state : State} {previous : Option Char} {c : Char} {text : Text}

theorem scan_cons (single : Lexeme.at delimiter state c text.head? ≠ .quotePair) :
    scan delimiter state previous (c :: text) =
      ⟨state, previous, Lexeme.at delimiter state c text.head?, text⟩ ::
        scan delimiter (state.after (Lexeme.at delimiter state c text.head?)) (some c) text := by
  cases text with
  | nil => simp [scan]
  | cons d rest => simp [scan] at single ⊢

theorem scan_pair (pair : Lexeme.at delimiter state '\'' (some '\'') = .quotePair) :
    scan delimiter state previous ('\'' :: '\'' :: text) =
      ⟨state, previous, .quotePair, text⟩ :: scan delimiter state (some '\'') text := by
  simp [scan, pair]

theorem afterText_cons (single : Lexeme.at delimiter state c text.head? ≠ .quotePair) :
    state.afterText delimiter (c :: text) =
      (state.after (Lexeme.at delimiter state c text.head?)).afterText delimiter text := by
  cases text with
  | nil => simp [State.afterText]
  | cons d rest => simp [State.afterText] at single ⊢

theorem afterText_pair (pair : Lexeme.at delimiter state '\'' (some '\'') = .quotePair) :
    state.afterText delimiter ('\'' :: '\'' :: text) = state.afterText delimiter text := by
  simp [State.afterText, pair]

theorem scan_single (single : Lexeme.at none state c text.head? = .char c) :
    scan none state previous (c :: text) =
      ⟨state, previous, .char c, text⟩ :: scan none (state.read c) (some c) text := by
  rw [scan_cons (by simp [single]), single]
  rfl

theorem afterText_single (single : Lexeme.at none state c text.head? = .char c) :
    state.afterText none (c :: text) = (state.read c).afterText none text := by
  rw [afterText_cons (by simp [single]), single]
  rfl

theorem scan_char (plain : c ≠ '\'') :
    scan none state previous (c :: text) =
      ⟨state, previous, .char c, text⟩ :: scan none (state.read c) (some c) text :=
  scan_single (Lexeme.at_char plain)

end Cons

/-- A reading goes on over a seam where it stopped. -/
theorem scan_append {delimiter : Option Char} {state : State} {previous : Option Char}
    {left right : Text} (apart : Apart left right) :
    scan delimiter state previous (left ++ right) =
      (scan delimiter state previous left).map (Step.extend right) ++
        scan delimiter (state.afterText delimiter left) (lastChar previous left) right := by
  fun_induction scan delimiter state previous left with
  | case1 => simp [State.afterText, lastChar]
  | case2 state previous c =>
    have same : Lexeme.at delimiter state c right.head? = Lexeme.at delimiter state c none := by
      cases right with
      | nil => rfl
      | cons d rest => exact Lexeme.at_next fun both => apart (by simp [both.1]) (by simp [both.2])
    have single : Lexeme.at delimiter state c right.head? ≠ .quotePair :=
      same ▸ Lexeme.at_none_ne_pair
    rw [List.singleton_append, scan_cons single, same]
    simp [State.afterText, lastChar, Step.extend]
  | case3 state previous c d rest pair ih =>
    obtain ⟨rfl, rfl⟩ := Lexeme.eq_quotes_of_pair pair
    have after := ih apart.drop_pair
    simp only [List.cons_append, scan_pair pair, afterText_pair pair, List.map_cons, lastChar_cons]
    rw [after]
    simp [Step.extend, lastChar]
  | case4 state previous c d rest single ih =>
    have after := ih apart.tail
    have first : Lexeme.at delimiter state c (d :: (rest ++ right)).head? ≠ .quotePair := by
      simpa using single
    rw [List.cons_append, List.cons_append, scan_cons first, afterText_cons (by simpa using single)]
    simp only [List.head?_cons, List.map_cons, lastChar_cons _ c]
    rw [← List.cons_append, after]
    rfl

end SeedCoverage.Sql

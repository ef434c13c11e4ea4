import SeedCoverage.Proofs.Split.Union
import SeedCoverage.Proofs.Text.Case

/-! SQL text in lower case is read in the same steps, searched with the same finds and cut at the same
places as it stands. -/
namespace SeedCoverage.Sql

open Text

def Lexeme.lower : Lexeme → Lexeme
  | .char c => .char c.toLower
  | .quotePair => .quotePair
  | .cut c => .cut c.toLower

def Step.lower (step : Step) : Step :=
  ⟨step.state, step.previous.map Char.toLower, step.lexeme.lower, Text.lower step.rest⟩

def Found.lower (place : Found) : Found :=
  ⟨Text.lower place.before, Text.lower place.found, Text.lower place.after⟩

variable {delimiter : Option Char} {state : State} {previous : Option Char}

theorem Quote.read_lower (quote : Quote) (c : Char) : quote.read c.toLower = quote.read c := by
  cases quote <;> simp (disch := decide) only [Quote.read, toLower_eq_iff]

theorem State.read_lower (state : State) (c : Char) : state.read c.toLower = state.read c := by
  simp (disch := decide) only [State.read, toLower_eq_iff, Quote.read_lower]

theorem State.after_lower (state : State) (lexeme : Lexeme) :
    state.after lexeme.lower = state.after lexeme := by
  cases lexeme with
  | char c => exact state.read_lower c
  | quotePair => rfl
  | cut c => rfl

theorem Lexeme.text_lower (lexeme : Lexeme) : lexeme.lower.text = Text.lower lexeme.text := by
  cases lexeme with
  | char c => rfl
  | quotePair => rfl
  | cut c => rfl

theorem Lexeme.isCut_lower (lexeme : Lexeme) : lexeme.lower.isCut = lexeme.isCut := by
  cases lexeme <;> rfl

/-- A delimiter is no letter. -/
def Signs (delimiter : Option Char) : Prop := ∀ sign ∈ delimiter, sign.isAlpha = false

theorem signs_none : Signs none := by simp [Signs]

theorem Lexeme.at_lower (signs : Signs delimiter) (state : State) (c : Char) (next : Option Char) :
    Lexeme.at delimiter state c.toLower (next.map Char.toLower) =
      (Lexeme.at delimiter state c next).lower := by
  have cuts : (delimiter == some c.toLower) = (delimiter == some c) := by
    cases delimiter with
    | none => rfl
    | some sign =>
      have equal : sign = c.toLower ↔ sign = c := by
        rw [eq_comm, toLower_eq_iff (signs sign rfl), eq_comm]
      rw [Bool.eq_iff_iff, beq_iff_eq, beq_iff_eq, Option.some.injEq, Option.some.injEq, equal]
  have pairs : (next.map Char.toLower == some '\'') = (next == some '\'') := by
    cases next with
    | none => rfl
    | some d => exact toLower_beq (c := d) rfl
  simp (disch := decide) only [Lexeme.at, cuts, pairs, toLower_beq]
  split
  · rfl
  · split <;> rfl

theorem scan_lower (signs : Signs delimiter) (state : State) (previous : Option Char) (text : Text) :
    scan delimiter state (previous.map Char.toLower) (lower text) =
      (scan delimiter state previous text).map Step.lower := by
  fun_induction scan delimiter state previous text with
  | case1 => rfl
  | case2 state previous c =>
    simp only [lower_cons, lower_nil, scan, List.map_cons, List.map_nil, Step.lower]
    rw [← Lexeme.at_lower signs]
    rfl
  | case3 state previous c d rest pair ih =>
    obtain ⟨rfl, rfl⟩ := Lexeme.eq_quotes_of_pair pair
    have lowered : ('\'' : Char).toLower = '\'' := rfl
    have paired : Lexeme.at delimiter state '\'' (some '\'') = .quotePair := pair
    rw [lower_cons, lower_cons, lowered, scan_pair paired, List.map_cons, ← ih]
    rfl
  | case4 state previous c d rest single ih =>
    have whole := Lexeme.at_lower signs state c (some d)
    have apart : Lexeme.at delimiter state c.toLower (lower (d :: rest)).head? ≠ .quotePair := by
      intro pair
      have lowered : (Lexeme.at delimiter state c (some d)).lower = .quotePair := whole ▸ pair
      cases read : Lexeme.at delimiter state c (some d) with
      | quotePair => exact single read
      | char e => rw [read] at lowered; cases lowered
      | cut e => rw [read] at lowered; cases lowered
    rw [lower_cons, scan_cons apart, List.map_cons]
    simp only [head?_lower, List.head?_cons]
    rw [whole, State.after_lower]
    exact congrArg _ ih

theorem Step.next_lower (step : Step) : step.lower.next = step.next :=
  State.after_lower step.state step.lexeme

theorem Step.ahead_lower (step : Step) : step.lower.ahead = Text.lower step.ahead := by
  rw [Step.ahead, Step.ahead, lower_append, ← Lexeme.text_lower]
  rfl

theorem Step.before_lower (step : Step) (text : Text) :
    step.lower.before (Text.lower text) = Text.lower (step.before text) := by
  rw [Step.before, Step.ahead_lower, length_lower, length_lower, take_lower]
  rfl

theorem Step.isChar_lower {sign : Char} (plain : sign.isAlpha = false) (step : Step) :
    step.lower.isChar sign = step.isChar sign := by
  rcases step with ⟨state, previous, lexeme, rest⟩
  cases lexeme with
  | char c =>
    simp only [Step.lower, Step.isChar, Lexeme.lower, Bool.beq_eq_decide_eq, Lexeme.char.injEq,
      toLower_eq_iff plain]
  | quotePair => rfl
  | cut c => rfl

theorem Step.closesAll_lower (step : Step) : step.lower.closesAll = step.closesAll := by
  rw [Step.closesAll, Step.isChar_lower rfl, Step.next_lower, Step.closesAll]

theorem isNameChar_caseBlind : CaseBlind isNameChar := by
  apply CaseBlind.of_capital
  intro c letter
  rw [isNameChar, Char.isAlphanum, isAlpha_of_toNat letter]
  rfl

theorem startsWith_lower (word text : Text) :
    startsWith word (Text.lower text) = startsWith word text := by
  rw [startsWith, take_lower, same_lower, startsWith]

theorem wordsSize?_lower (words : List Text) (text : Text) :
    wordsSize? words (Text.lower text) = wordsSize? words text := by
  fun_induction wordsSize? words text with
  | case1 => rfl
  | case2 word text starts => rw [wordsSize?, startsWith_lower, if_pos starts]
  | case3 word text stops => rw [wordsSize?, startsWith_lower, if_neg stops]
  | case4 word next words text starts unparted =>
    simp only [wordsSize?, startsWith_lower, starts, drop_lower,
      takeWhile_lower isAsciiBlank_caseBlind, unparted, lower_nil, ↓reduceIte]
  | case5 word next words text starts parted skipped ih =>
    have blanks : Text.lower ((text.drop word.length).takeWhile isAsciiBlank) ≠ [] := by
      rwa [Ne, lower, List.map_eq_nil_iff]
    simp only [wordsSize?, startsWith_lower, starts, drop_lower,
      takeWhile_lower isAsciiBlank_caseBlind, length_lower, ↓reduceIte]
    exact congrArg (Option.map (skipped + ·)) ih
  | case6 word next words text stops =>
    rw [wordsSize?, startsWith_lower, if_neg stops]

theorem any_lower {p : Char → Bool} (blind : CaseBlind p) (next : Option Char) :
    (next.map Char.toLower).any p = next.any p := by
  cases next with
  | none => rfl
  | some c => exact blind c

theorem phraseSize?_lower (words : List Text) (previous : Option Char) (text : Text) :
    phraseSize? words (previous.map Char.toLower) (Text.lower text) =
      phraseSize? words previous text := by
  simp only [phraseSize?, any_lower isNameChar_caseBlind, wordsSize?_lower, drop_lower, head?_lower]

/-- A search that takes a step in any case or in none finds the same place. -/
theorem findStep_lower {accept : Step → Option Nat} (blind : ∀ step, accept step.lower = accept step)
    (previous : Option Char) (text : Text) :
    findStep accept (previous.map Char.toLower) (Text.lower text) =
      (findStep accept previous text).map Found.lower := by
  have cuts (step : Step) :
      step.lower.cut? accept ((step.lower.before (Text.lower text)).reverse ++ []) =
        (step.cut? accept ((step.before text).reverse ++ [])).map Found.lower := by
    rw [Step.cut?, blind, Step.before_lower, Step.ahead_lower, Step.cut?, Option.map_map]
    simp only [List.append_nil, List.reverse_reverse, take_lower, drop_lower]
    rfl
  simp only [findStep, findFrom_eq, scan_lower signs_none,
    List.findSome?_map, List.map_findSome?]
  exact congrArg (List.findSome? · _) (funext cuts)

theorem findStatementEnd_lower (text : Text) :
    findStatementEnd (Text.lower text) = (findStatementEnd text).map Found.lower := by
  refine findStep_lower (fun step => ?_) none text
  rw [Step.semicolonSize?, Step.isChar_lower rfl]
  rfl

theorem findClosingParen_lower (text : Text) :
    findClosingParen (Text.lower text) = (findClosingParen text).map Found.lower := by
  have closing (step : Step) : step.lower.closingSize? = step.closingSize? := by
    rw [Step.closingSize?, Step.closesAll_lower, Step.closingSize?]
  have found := findStep_lower closing none text
  rw [findClosingParen, findClosingParen]
  simp only [head?_lower_eq_some (show '('.isAlpha = false from rfl)]
  split
  · exact found
  · rfl

theorem findPhrase_lower (words : List Text) (previous : Option Char) (text : Text) :
    findPhrase words (previous.map Char.toLower) (Text.lower text) =
      (findPhrase words previous text).map Found.lower := by
  have phrases (step : Step) : step.lower.phraseSize? words = step.phraseSize? words := by
    rw [Step.phraseSize?, Step.ahead_lower]
    exact congrArg (fun size => if step.state.atTop then size else none)
      (phraseSize?_lower words step.previous step.ahead)
  rw [findPhrase, findPhrase]
  split
  · rfl
  · exact findStep_lower phrases previous text

theorem phraseIn_lower (phrase text : Text) :
    phraseIn phrase (Text.lower text) = (phraseIn phrase text).map Found.lower :=
  findPhrase_lower (words phrase) none text

end SeedCoverage.Sql

import SeedCoverage.Text.Blank
import SeedCoverage.Sql.Scan

/-! Looking for a place in SQL text. A place counts only where the reading stands at the top level,
so nothing inside quotes, parentheses or brackets is ever found. -/
namespace SeedCoverage.Sql

open Text

/-- A text cut in three around the place that was looked for. -/
structure Found where
  before : Text
  found : Text
  after : Text
  deriving DecidableEq, Repr

/-- The text cut at a step, if `accept` takes it and says how much of it; `behind` is the text before
the step, in reverse order. -/
def Step.cut? (accept : Step → Option Nat) (behind : Text) (step : Step) : Option Found :=
  (accept step).map fun size => ⟨behind.reverse, step.ahead.take size, step.ahead.drop size⟩

/-- The first step that `accept` takes; `behind` is the text before, in reverse order. -/
def findFrom (accept : Step → Option Nat) (state : State) (previous : Option Char) (behind : Text) :
    Text → Option Found
  | [] => none
  | [c] => Step.cut? accept behind ⟨state, previous, Lexeme.at none state c none, []⟩
  | c :: d :: rest =>
    match Lexeme.at none state c (some d) with
    | .quotePair =>
      match Step.cut? accept behind ⟨state, previous, .quotePair, rest⟩ with
      | some place => some place
      | none => findFrom accept state (some d) (d :: c :: behind) rest
    | lexeme =>
      match Step.cut? accept behind ⟨state, previous, lexeme, d :: rest⟩ with
      | some place => some place
      | none => findFrom accept (state.after lexeme) (some c) (c :: behind) (d :: rest)

/-- The first step of a fresh reading that `accept` takes. -/
def findStep (accept : Step → Option Nat) (previous : Option Char) (text : Text) : Option Found :=
  findFrom accept .start previous [] text

/-- A semicolon at the top level. -/
def Step.semicolonSize? (step : Step) : Option Nat :=
  if step.state.atTop && step.isChar ';' then some 1 else none

/-- The first semicolon at the top level. -/
def findStatementEnd (text : Text) : Option Found := findStep Step.semicolonSize? none text

/-- A closing parenthesis that leaves none open. -/
def Step.closingSize? (step : Step) : Option Nat := if step.closesAll then some 1 else none

/-- The parenthesis that closes the one at the start of `text`. -/
def findClosingParen (text : Text) : Option Found :=
  if text.head? = some '(' then findStep Step.closingSize? none text else none

/-- Characters that continue an identifier: every character outside ASCII is one. -/
def isNameChar (c : Char) : Bool := c.isAlphanum || c == '_' || c == '$' || 0x80 ≤ c.toNat

/-- Whether a text begins with a word, ASCII letter case aside. -/
def startsWith (word text : Text) : Bool := same (text.take word.length) word

/-- The length of the words at the start of `text`, with ASCII blanks between them. -/
def wordsSize? : List Text → Text → Option Nat
  | [], _ => some 0
  | [word], text => if startsWith word text then some word.length else none
  | word :: next :: words, text =>
    if startsWith word text then
      match (text.drop word.length).takeWhile isAsciiBlank with
      | [] => none
      | blanks =>
        let skipped := word.length + blanks.length
        (wordsSize? (next :: words) (text.drop skipped)).map (skipped + ·)
    else none

/-- The length of a phrase that is neither preceded nor followed by a name character. -/
def phraseSize? (words : List Text) (previous : Option Char) (text : Text) : Option Nat :=
  if previous.any isNameChar then none
  else (wordsSize? words text).filter fun size => !(text.drop size).head?.any isNameChar

/-- A phrase that begins at the top level. -/
def Step.phraseSize? (words : List Text) (step : Step) : Option Nat :=
  if step.state.atTop then Sql.phraseSize? words step.previous step.ahead else none

/-- The first occurrence of a phrase at the top level, ASCII letter case aside. -/
def findPhrase (words : List Text) (previous : Option Char) (text : Text) : Option Found :=
  if words.isEmpty then none else findStep (Step.phraseSize? words) previous text

/-- The first occurrence of a phrase in a text of its own. -/
def phraseIn (phrase : Text) (text : Text) : Option Found := findPhrase (words phrase) none text

theorem ahead_of_mem_scan {delimiter : Option Char} {state : State} {previous : Option Char}
    {text : Text} {step : Step} (member : step ∈ scan delimiter state previous text) :
    step.ahead.length ≤ text.length := by
  fun_induction scan delimiter state previous text with
  | case1 => simp at member
  | case2 state previous c =>
    have one : (Lexeme.at delimiter state c none).text = [c] :=
      Lexeme.text_at (by unfold Lexeme.at; split <;> simp)
    simp only [List.mem_singleton] at member
    subst member
    simp [Step.ahead, one]
  | case3 state previous c d rest pair ih =>
    rcases List.mem_cons.mp member with rfl | later
    · simp [Step.ahead, Lexeme.text]
    · have := ih later; simp only [List.length_cons]; omega
  | case4 state previous c d rest single ih =>
    have one := Lexeme.text_at single
    rcases List.mem_cons.mp member with rfl | later
    · simp [Step.ahead, one]
    · have := ih later; simp only [List.length_cons] at this ⊢; omega

theorem Step.before_append {step : Step} {front text : Text}
    (fits : step.ahead.length ≤ text.length) :
    step.before (front ++ text) = front ++ step.before text := by
  simp only [Step.before, List.length_append]
  rw [Nat.add_sub_assoc fits, List.take_length_add_append]

/-- A search in the steps of `text` finds the same place when `front` has been read before it. -/
private theorem findSome?_cut_append (accept : Step → Option Nat) (behind front text : Text)
    (run : List Step) (fit : ∀ step ∈ run, step.ahead.length ≤ text.length) :
    (run.findSome? fun step =>
      step.cut? accept ((step.before (front ++ text)).reverse ++ behind)) =
    run.findSome? fun step =>
      step.cut? accept ((step.before text).reverse ++ (front.reverse ++ behind)) := by
  induction run with
  | nil => rfl
  | cons step rest ih =>
    have fits := fit step (by simp)
    rw [List.findSome?_cons, List.findSome?_cons, Step.before_append fits,
      ih fun later member => fit later (by simp [member])]
    simp

private theorem Step.before_whole {step : Step} {text : Text} (whole : step.ahead = text) :
    step.before text = [] := by
  simp [Step.before, whole]

/-- Looking for a step is looking through all the steps. -/
theorem findFrom_eq (accept : Step → Option Nat) (state : State) (previous : Option Char)
    (behind text : Text) :
    findFrom accept state previous behind text =
      (scan none state previous text).findSome? fun step =>
        step.cut? accept ((step.before text).reverse ++ behind) := by
  fun_induction findFrom accept state previous behind text with
  | case1 => simp [scan]
  | case2 state previous behind c =>
    have one : (Lexeme.at none state c none).text = [c] :=
      Lexeme.text_at (by unfold Lexeme.at; split <;> simp)
    have here : Step.before [c] ⟨state, previous, Lexeme.at none state c none, []⟩ = [] :=
      Step.before_whole (by simp [Step.ahead, one])
    simp [scan, here]
  | case3 state previous behind c d rest pair place found =>
    rcases Lexeme.eq_quotes_of_pair pair with ⟨rfl, rfl⟩
    have here : Step.before ('\'' :: '\'' :: rest) ⟨state, previous, .quotePair, rest⟩ = [] :=
      Step.before_whole rfl
    simp [scan, pair, here, found]
  | case4 state previous behind c d rest pair absent ih =>
    rcases Lexeme.eq_quotes_of_pair pair with ⟨rfl, rfl⟩
    have here : Step.before ('\'' :: '\'' :: rest) ⟨state, previous, .quotePair, rest⟩ = [] :=
      Step.before_whole rfl
    have later := findSome?_cut_append accept behind ['\'', '\''] rest
      (scan none state (some '\'') rest) fun step member => ahead_of_mem_scan member
    rw [ih]
    simpa [scan, pair, here, absent] using later.symm
  | case5 state previous behind c d rest place single found =>
    have one := Lexeme.text_at single
    have here : Step.before (c :: d :: rest)
        ⟨state, previous, Lexeme.at none state c (some d), d :: rest⟩ = [] :=
      Step.before_whole (by simp [Step.ahead, one])
    simp [scan, here, found]
  | case6 state previous behind c d rest single absent ih =>
    have one := Lexeme.text_at single
    have here : Step.before (c :: d :: rest)
        ⟨state, previous, Lexeme.at none state c (some d), d :: rest⟩ = [] :=
      Step.before_whole (by simp [Step.ahead, one])
    have later := findSome?_cut_append accept behind [c] (d :: rest)
      (scan none (state.after (Lexeme.at none state c (some d))) (some c) (d :: rest))
      fun step member => ahead_of_mem_scan member
    rw [ih]
    simpa [scan, single, here, absent] using later.symm

/-- The place that a search finds is the text from one of the steps on, cut where `accept` says. -/
theorem findStep_some {accept : Step → Option Nat} {previous : Option Char} {text : Text}
    {place : Found} (h : findStep accept previous text = some place) :
    ∃ step ∈ scan none .start previous text, ∃ size, accept step = some size ∧
      place = ⟨step.before text, step.ahead.take size, step.ahead.drop size⟩ := by
  rw [findStep, findFrom_eq] at h
  obtain ⟨step, member, taken⟩ := List.exists_of_findSome?_eq_some h
  obtain ⟨size, accepted, rfl⟩ := Option.map_eq_some_iff.mp taken
  exact ⟨step, member, size, accepted, by simp⟩

theorem length_le_of_startsWith {word text : Text} (h : startsWith word text = true) :
    word.length ≤ text.length := by
  have sizes := congrArg List.length (beq_iff_eq.mp h)
  simp only [length_lower, List.length_take] at sizes
  omega

theorem wordsSize?_bounds {words : List Text} {text : Text} {size : Nat}
    (h : wordsSize? words text = some size) (filled : ∀ word ∈ words, word ≠ [])
    (some_word : words ≠ []) : 0 < size ∧ size ≤ text.length := by
  fun_induction wordsSize? words text generalizing size with
  | case1 => simp at some_word
  | case2 word text starts =>
    have := length_le_of_startsWith starts
    have := List.length_pos_iff.mpr (filled word (by simp))
    cases h
    omega
  | case3 => cases h
  | case4 => cases h
  | case5 =>
    rename_i ih
    obtain ⟨more, found, rfl⟩ := Option.map_eq_some_iff.mp h
    have := ih found (fun word member => filled word (by simp [member])) (by simp)
    simp only [List.length_drop] at this
    omega
  | case6 => cases h

theorem wordsFrom_filled {word text : Text} : ∀ part ∈ wordsFrom word text, part ≠ [] := by
  fun_induction wordsFrom word text with
  | case1 => simp
  | case2 word empty => simpa using empty
  | case3 => assumption
  | case4 word c rest blank filled ih => simpa [List.isEmpty_iff] using And.intro filled ih
  | case5 => assumption

theorem findPhrase_after_length {phrase : List Text} {previous : Option Char} {text : Text}
    {place : Found} (h : findPhrase phrase previous text = some place)
    (filled : ∀ word ∈ phrase, word ≠ []) : place.after.length < text.length := by
  unfold findPhrase at h
  split at h
  · cases h
  · rename_i some_word
    obtain ⟨step, member, size, accepted, rfl⟩ := findStep_some h
    have whole := ahead_of_mem_scan member
    unfold Step.phraseSize? at accepted
    split at accepted
    · unfold phraseSize? at accepted
      split at accepted
      · cases accepted
      · have := wordsSize?_bounds (Option.filter_eq_some_iff.mp accepted).1 filled
          (by simpa using some_word)
        simp only [List.length_drop]
        omega
    · cases accepted

theorem findStatementEnd_after_length {text : Text} {place : Found}
    (h : findStatementEnd text = some place) : place.after.length < text.length := by
  obtain ⟨step, member, size, accepted, rfl⟩ := findStep_some h
  have whole := ahead_of_mem_scan member
  unfold Step.semicolonSize? at accepted
  split at accepted
  · rename_i ends
    simp only [Bool.and_eq_true, Step.isChar, beq_iff_eq] at ends
    cases accepted
    simp only [Step.ahead, ends.2, Lexeme.text, List.length_drop, List.length_append,
      List.length_singleton] at whole ⊢
    omega
  · cases accepted

end SeedCoverage.Sql

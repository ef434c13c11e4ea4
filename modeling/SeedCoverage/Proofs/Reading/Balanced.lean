import SeedCoverage.Proofs.Reading.Seam

/-! Texts that are known from one end to the other: where their reading ends, and what holds of every
step on the way. A text that never closes what it did not open reads the same inside parentheses and
brackets. -/
namespace SeedCoverage.Sql

/-- Read from `state`, the text ends in `final`, and all that is read on the way is `allowed`. -/
structure Reads (allowed : State → Lexeme → Prop) (state : State) (text : Text) (final : State) :
    Prop where
  ends : state.afterText none text = final
  each : ∀ step ∈ scan none state none text, allowed step.state step.lexeme

instance (allowed : State → Lexeme → Prop) [∀ state lexeme, Decidable (allowed state lexeme)]
    (state : State) (text : Text) (final : State) : Decidable (Reads allowed state text final) :=
  decidable_of_iff (state.afterText none text = final ∧
    ∀ step ∈ scan none state none text, allowed step.state step.lexeme)
    ⟨fun ⟨ends, each⟩ => ⟨ends, each⟩, fun ⟨ends, each⟩ => ⟨ends, each⟩⟩

/-- A closer outside quotes for which nothing is open. -/
def State.strays (state : State) (lexeme : Lexeme) : Bool :=
  !state.inQuotes && ((lexeme == .char ')' && state.parens == 0) ||
    (lexeme == .char ']' && state.brackets == 0))

/-- `state` where `outer` is open around it. -/
def State.under (state outer : State) : State :=
  ⟨state.quote, state.parens + outer.parens, state.brackets + outer.brackets⟩

def Step.under (outer : State) (step : Step) : Step := { step with state := step.state.under outer }

/-- The characters that what is open depends on. -/
def isMark (c : Char) : Bool :=
  c == '\'' || c == '"' || c == '(' || c == ')' || c == '[' || c == ']'

theorem ne_quote_of_unmarked {c : Char} (unmarked : isMark c = false) : c ≠ '\'' := by
  rintro rfl
  simp [isMark] at unmarked

theorem read_of_unmarked {state : State} {c : Char} (code : state.quote = .code)
    (unmarked : isMark c = false) : state.read c = state := by
  simp only [isMark, Bool.or_eq_false_iff, beq_eq_false_iff_ne] at unmarked
  rcases state with ⟨quote, parens, brackets⟩
  cases code
  simp [State.read, Quote.read, unmarked]

/-- The character before a text is no part of how the text is read; only the first step tells it. -/
theorem scan_previous {delimiter : Option Char} {state : State} {previous : Option Char}
    (other : Option Char) {text : Text} {step : Step}
    (member : step ∈ scan delimiter state previous text) :
    step ∈ scan delimiter state other text ∨
      { step with previous := other } ∈ scan delimiter state other text := by
  fun_cases scan delimiter state previous text with
  | case1 => simp [scan] at member
  | case2 c =>
    simp only [scan, List.mem_singleton] at member
    exact .inr (by simp [scan, member])
  | case3 c d rest pair =>
    simp only [scan, pair, List.mem_cons] at member ⊢
    rcases member with rfl | later
    · exact .inr (.inl rfl)
    · exact .inl (.inr later)
  | case4 c d rest single =>
    simp only [scan, List.mem_cons] at member ⊢
    rcases member with rfl | later
    · exact .inr (.inl rfl)
    · exact .inl (.inr later)

theorem afterText_eq_foldl (delimiter : Option Char) (state : State) (previous : Option Char)
    (text : Text) :
    state.afterText delimiter text =
      (scan delimiter state previous text).foldl
        (fun state step => state.after step.lexeme) state := by
  fun_induction scan delimiter state previous text with
  | case1 => rfl
  | case2 => rfl
  | case3 state previous c d rest pair ih => simpa [State.afterText, pair, State.after] using ih
  | case4 state previous c d rest single ih => simpa [State.afterText, single] using ih

theorem afterText_append {delimiter : Option Char} {state : State} {left right : Text}
    (apart : Apart left right) :
    state.afterText delimiter (left ++ right) =
      (state.afterText delimiter left).afterText delimiter right := by
  rw [afterText_eq_foldl _ _ none, scan_append apart, List.foldl_append, List.foldl_map,
    afterText_eq_foldl delimiter (state.afterText delimiter left) (lastChar none left)]
  simp only [Step.extend_lexeme, ← afterText_eq_foldl delimiter state none left]

namespace Reads

variable {allowed weaker : State → Lexeme → Prop} {state middle final : State}
  {left right text : Text} {c : Char}

theorem each_of (reads : Reads allowed state text final) (previous : Option Char) :
    ∀ step ∈ scan none state previous text, allowed step.state step.lexeme := by
  intro step member
  rcases scan_previous none member with same | first
  · exact reads.each step same
  · exact (reads.each _ first :)

theorem mono (reads : Reads allowed state text final)
    (implies : ∀ state lexeme, allowed state lexeme → weaker state lexeme) :
    Reads weaker state text final :=
  ⟨reads.ends, fun step member => implies _ _ (reads.each step member)⟩

theorem nil : Reads allowed state [] state := ⟨rfl, by simp [scan]⟩

theorem append (first : Reads allowed state left middle) (second : Reads allowed middle right final)
    (apart : Apart left right) : Reads allowed state (left ++ right) final := by
  refine ⟨by rw [afterText_append apart, first.ends, second.ends], ?_⟩
  intro step member
  rw [scan_append apart, first.ends] at member
  rcases List.mem_append.mp member with before | behind
  · obtain ⟨source, present, rfl⟩ := List.mem_map.mp before
    exact first.each source present
  · exact second.each_of _ step behind

theorem cons (single : Lexeme.at none state c text.head? = .char c) (here : allowed state (.char c))
    (reads : Reads allowed (state.read c) text final) : Reads allowed state (c :: text) final := by
  refine ⟨by rw [afterText_single single, reads.ends], ?_⟩
  intro step member
  rw [scan_single single] at member
  rcases List.mem_cons.mp member with rfl | later
  · exact here
  · exact reads.each_of _ step later

theorem pair (unquoted : state.quote ≠ .double) (here : allowed state .quotePair)
    (reads : Reads allowed state text final) :
    Reads allowed state ('\'' :: '\'' :: text) final := by
  have paired : Lexeme.at none state '\'' (some '\'') = .quotePair := by
    simp [Lexeme.at, unquoted]
  refine ⟨by rw [afterText_pair paired, reads.ends], ?_⟩
  intro step member
  rw [scan_pair paired] at member
  rcases List.mem_cons.mp member with rfl | later
  · exact here
  · exact reads.each_of _ step later

theorem chars (code : state.quote = .code)
    (plain : ∀ c ∈ text, isMark c = false ∧ allowed state (.char c)) :
    Reads allowed state text state := by
  induction text with
  | nil => exact nil
  | cons c rest ih =>
    obtain ⟨unmarked, here⟩ := plain c (by simp)
    have still := read_of_unmarked code unmarked
    exact cons (Lexeme.at_char (ne_quote_of_unmarked unmarked)) here
      (still.symm ▸ ih fun d member => plain d (by simp [member]))

end Reads

theorem at_under (outer state : State) (c : Char) (next : Option Char) :
    Lexeme.at none (state.under outer) c next = Lexeme.at none state c next := by
  simp [Lexeme.at, State.under]

theorem after_under {outer state : State} {lexeme : Lexeme} (steady : state.strays lexeme = false) :
    (state.under outer).after lexeme = (state.after lexeme).under outer := by
  cases lexeme with
  | quotePair => rfl
  | cut c => rfl
  | char c =>
    rcases state with ⟨quote, parens, brackets⟩
    cases quote with
    | single => rfl
    | double => rfl
    | code =>
      have opened : (c = ')' → parens ≠ 0) ∧ (c = ']' → brackets ≠ 0) := by
        simpa [State.strays, State.inQuotes, not_and, imp_not_comm] using steady
      simp only [State.after, State.read, State.under]
      grind

theorem scan_under (outer : State) {state : State} {previous : Option Char} {text : Text}
    (steady : ∀ step ∈ scan none state previous text, step.state.strays step.lexeme = false) :
    scan none (state.under outer) previous text =
        (scan none state previous text).map (Step.under outer) ∧
      (state.under outer).afterText none text = (state.afterText none text).under outer := by
  fun_induction scan none state previous text with
  | case1 => exact ⟨rfl, rfl⟩
  | case2 state previous c =>
    have here := steady _ (List.mem_singleton.mpr rfl)
    simp only [scan, State.afterText, at_under, List.map_cons, List.map_nil]
    exact ⟨rfl, after_under here⟩
  | case3 state previous c d rest pair ih =>
    obtain ⟨same, ends⟩ := ih fun step member => steady step (by simp [member])
    obtain ⟨rfl, rfl⟩ := Lexeme.eq_quotes_of_pair pair
    have outerPair := (at_under outer state '\'' (some '\'')).trans pair
    rw [scan_pair outerPair, afterText_pair outerPair, afterText_pair pair, same, ends]
    exact ⟨rfl, rfl⟩
  | case4 state previous c d rest single ih =>
    obtain ⟨same, ends⟩ := ih fun step member => steady step (by simp [member])
    have here := @after_under outer state _ (steady _ List.mem_cons_self)
    have outerSingle : Lexeme.at none (state.under outer) c (some d) ≠ .quotePair := by
      rw [at_under]
      exact single
    rw [scan_cons outerSingle, afterText_cons outerSingle,
      @afterText_cons none state c (d :: rest) single]
    simp only [List.head?_cons, at_under] at here ⊢
    rw [here, same, ends]
    exact ⟨rfl, rfl⟩

/-- Opens only what it closes again, and closes only what it opened. -/
abbrev Balanced (text : Text) : Prop :=
  Reads (fun state lexeme => state.strays lexeme = false) .start text .start

/-- Inside one pair of parentheses. -/
def State.nested : State := { parens := 1 }

/-- The steps of a balanced text inside parentheses are those that it has by itself. -/
theorem Reads.nested {allowed : State → Lexeme → Prop} {text : Text}
    (reads : Reads allowed .start text .start)
    (steady : ∀ state lexeme, allowed state lexeme → state.strays lexeme = false) :
    Reads (fun state lexeme => ∃ inner : State, state = inner.under .nested ∧ allowed inner lexeme)
      .nested text .nested := by
  have calm : ∀ step ∈ scan none .start none text, step.state.strays step.lexeme = false :=
    fun step member => steady _ _ (reads.each step member)
  obtain ⟨same, ends⟩ := scan_under .nested calm
  refine ⟨ends.trans (by rw [reads.ends]; rfl), ?_⟩
  intro step member
  rw [show State.nested = State.start.under .nested from rfl, same] at member
  obtain ⟨source, present, rfl⟩ := List.mem_map.mp member
  exact ⟨source.state, rfl, reads.each source present⟩

/-- Inside parentheses a balanced text never gets out of them. -/
theorem Reads.stays_inside {text : Text} (balanced : Balanced text) :
    Reads (fun state lexeme =>
      state.outsideParens = false ∧ (state.after lexeme).outsideParens = false)
      .nested text .nested := by
  refine (balanced.nested fun _ _ => id).mono ?_
  rintro _ lexeme ⟨inner, rfl, calm⟩
  rw [after_under calm]
  simp [State.outsideParens, State.under, State.nested]

theorem Reads.group {allowed : State → Lexeme → Prop} {inner : Text}
    (opens : allowed .start (.char '(')) (closes : allowed .nested (.char ')'))
    (reads : Reads allowed .nested inner .nested) :
    Reads allowed .start ('(' :: inner ++ [')']) .start := by
  have closing : Reads allowed .nested [')'] .start := .cons (Lexeme.at_char (by decide)) closes .nil
  exact .cons (Lexeme.at_char (by decide)) opens (reads.append closing (.of_head (by decide)))

end SeedCoverage.Sql

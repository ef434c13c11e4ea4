import SeedCoverage.Proofs.Bytes.Reading
import SeedCoverage.Proofs.Script.Carving

/-! The lexical rule of SQL. The reading skips a doubled quote wherever it meets one, also where the rule
sees a string that opens and closes, so that the two stand in different quotes inside a run of quotes.
Behind every run they agree, for both have then read the same characters one by one. -/
namespace SeedCoverage.Sql

open Text Bytes

/-- The quote that every character of a text stands in, and the one that its end stands in. In code a
single quote opens a string and a double quote an identifier. In a string a doubled quote is content and
the first quote that is not doubled closes it. An identifier lasts up to the next double quote. -/
def lexicalQuotes : Quote → Text → List Quote
  | quote, [] => [quote]
  | .code, c :: rest =>
    .code :: lexicalQuotes (if c = '\'' then .single else if c = '"' then .double else .code) rest
  | .single, '\'' :: '\'' :: rest => .single :: .single :: lexicalQuotes .single rest
  | .single, c :: rest => .single :: lexicalQuotes (if c = '\'' then .code else .single) rest
  | .double, c :: rest => .double :: lexicalQuotes (if c = '"' then .code else .double) rest

/-- The characters before an offset that stand outside quotes, if the text begins in `quote`. -/
def unquoted (quote : Quote) (text : Text) (offset : Nat) : Text :=
  (((text.zip (lexicalQuotes quote text)).take offset).filter fun mark => mark.2 == .code).map Prod.fst

/-- How deep a text leads: one deeper at every opener, and one less deep at every closer, where
something is open. -/
def depth (opener closer : Char) (start : Nat) (text : Text) : Nat :=
  text.foldl (fun depth c =>
    if c = opener then depth + 1 else if c = closer then depth - 1 else depth) start

/-- What is open at an offset of a text by the lexical rule, where `start` is open before the text. -/
structure Lexical (start : State) (text : Text) (offset : Nat) (state : State) : Prop where
  quote : (lexicalQuotes start.quote text)[offset]? = some state.quote
  parens : state.parens = depth '(' ')' start.parens (unquoted start.quote text offset)
  brackets : state.brackets = depth '[' ']' start.brackets (unquoted start.quote text offset)

section Characters

variable {delimiter : Option Char} {state : State} {previous : Option Char} {text : Text} {step : Step}

/-- Two quotes open a string and close it, or close one and open it again. -/
theorem State.read_quotes (unquoted : state.quote ≠ .double) :
    (state.read '\'').read '\'' = state := by
  rcases state with ⟨quote, parens, brackets⟩
  cases quote with
  | code => rfl
  | single => rfl
  | double => exact absurd rfl unquoted

theorem Lexeme.unquoted_of_pair {c : Char} {next : Option Char}
    (pair : Lexeme.at delimiter state c next = .quotePair) : state.quote ≠ .double := by
  intro double
  simp only [Lexeme.at, double] at pair
  split at pair <;> simp at pair

/-- Skipping doubled quotes comes to the same end as reading every character. -/
theorem afterText_eq_read (state : State) (text : Text) :
    state.afterText none text = text.foldl State.read state := by
  fun_induction State.afterText none state text with
  | case1 => rfl
  | case2 state c =>
    rw [Lexeme.at_of_single Lexeme.at_none_ne_pair]
    rfl
  | case3 state c d rest pair ih =>
    obtain ⟨rfl, rfl⟩ := Lexeme.eq_quotes_of_pair pair
    rw [ih, List.foldl_cons, List.foldl_cons, State.read_quotes (Lexeme.unquoted_of_pair pair)]
  | case4 state c d rest single ih =>
    rw [ih, Lexeme.at_of_single single]
    rfl

/-- A step finds open what the characters before it leave open. -/
theorem state_eq_read (member : step ∈ scan none state previous text) :
    step.state = (step.before text).foldl State.read state := by
  rw [← afterText_before member, afterText_eq_read]

end Characters

variable {start state : State} {c : Char} {text : Text} {offset : Nat}

/-- What one character does by the rule, if it is not half of a doubled quote in a string. -/
theorem lexicalQuotes_cons {quote : Quote}
    (single : ¬(quote = .single ∧ c = '\'' ∧ text.head? = some '\'')) :
    lexicalQuotes quote (c :: text) = quote :: lexicalQuotes (quote.read c) text := by
  cases quote with
  | code => rfl
  | double => rfl
  | single =>
    rw [lexicalQuotes]
    · rfl
    · rintro rest rfl rfl
      exact single ⟨rfl, rfl, rfl⟩

theorem unquoted_cons {quote : Quote}
    (single : ¬(quote = .single ∧ c = '\'' ∧ text.head? = some '\'')) (offset : Nat) :
    unquoted quote (c :: text) (offset + 1) =
      (if quote = .code then [c] else []) ++ unquoted (quote.read c) text offset := by
  rw [unquoted, lexicalQuotes_cons single, List.zip_cons_cons, List.take_succ_cons, List.filter_cons,
    unquoted]
  cases quote <;> rfl

theorem depth_append (opener closer : Char) (start : Nat) (left right : Text) :
    depth opener closer start (left ++ right) =
      depth opener closer (depth opener closer start left) right :=
  List.foldl_append

/-- A character leads deeper, or less deep, where it stands outside quotes. -/
theorem State.read_depths (state : State) (c : Char) :
    let read := if state.quote = .code then [c] else []
    (state.read c).parens = depth '(' ')' state.parens read ∧
      (state.read c).brackets = depth '[' ']' state.brackets read := by
  rcases state with ⟨quote, parens, brackets⟩
  cases quote with
  | code => simp only [State.read, depth]; grind
  | single => exact ⟨rfl, rfl⟩
  | double => exact ⟨rfl, rfl⟩

namespace Lexical

theorem here (start : State) (text : Text) : Lexical start text 0 start := by
  refine ⟨?_, rfl, rfl⟩
  fun_cases lexicalQuotes start.quote text <;> simp_all

/-- A character that is not half of a doubled quote in a string. -/
theorem next (single : ¬(start.quote = .single ∧ c = '\'' ∧ text.head? = some '\''))
    (later : Lexical (start.read c) text offset state) :
    Lexical start (c :: text) (offset + 1) state := by
  obtain ⟨parens, brackets⟩ := start.read_depths c
  constructor
  · rw [lexicalQuotes_cons single, List.getElem?_cons_succ, ← quote_read]
    exact later.quote
  · rw [unquoted_cons single, depth_append, ← quote_read, ← parens]
    exact later.parens
  · rw [unquoted_cons single, depth_append, ← quote_read, ← brackets]
    exact later.brackets

/-- A doubled quote in a string. -/
theorem pair (string : start.quote = .single) (later : Lexical start text offset state) :
    Lexical start ('\'' :: '\'' :: text) (offset + 2) state := by
  obtain ⟨quote, parens, brackets⟩ := later
  rw [string] at quote parens brackets
  constructor <;> rw [string]
  · exact quote
  · exact parens
  · exact brackets

/-- What the characters up to an offset leave open is open there by the rule, unless a quote stands at
the offset, which might be the second half of a doubled one. -/
theorem of_read (start : State) (front : Text) {back : Text} (ends : back.head? ≠ some '\'') :
    Lexical start (front ++ back) front.length (front.foldl State.read start) := by
  induction size : front.length using Nat.strongRecOn generalizing start front with
  | _ length ih =>
    subst size
    cases front with
    | nil => exact here start back
    | cons c rest =>
      by_cases doubled : start.quote = .single ∧ c = '\'' ∧ (rest ++ back).head? = some '\''
      · obtain ⟨string, rfl, second⟩ := doubled
        cases rest with
        | nil => exact absurd second ends
        | cons d more =>
          obtain rfl : d = '\'' := Option.some.inj second
          have unquoted : start.quote ≠ .double := by simp [string]
          have shorter : more.length < more.length + 2 := by omega
          have later := ih more.length shorter start more rfl
          rw [List.foldl_cons, List.foldl_cons, State.read_quotes unquoted]
          exact pair string later
      · exact next doubled (ih rest.length (by simp) (start.read c) rest rfl)

end Lexical

/-- The steps of a reading that are not at a quote find open what is open by the lexical rule, and so
does the end. -/
theorem lexical_of_mem_steps (text : Text) :
    (∀ step ∈ steps text, step.ahead.head? ≠ some '\'' →
      Lexical .start text (step.before text).length step.state) ∧
    Lexical .start text text.length (State.start.afterText none text) := by
  constructor
  · intro step member plain
    have rule := Lexical.of_read .start (step.before text) plain
    rwa [before_append_ahead member, ← state_eq_read member] at rule
  · have nothing : ([] : Text).head? ≠ some '\'' := by simp
    have rule := Lexical.of_read .start text nothing
    rwa [List.append_nil, ← afterText_eq_read] at rule

private theorem getElem?_front {front back : Text} (whole : front ++ back = text) :
    text[front.length]? = back.head? := by
  rw [← whole, List.getElem?_append_right (Nat.le_refl _), Nat.sub_self, List.head?_eq_getElem?]

/-- The reading that skips doubled quotes stands in the quotes, parentheses and brackets that the lexical
rule gives, at every offset that it comes to but those of single quotes, and at the end: among the
characters of a text, and among its bytes. -/
theorem reading_lexical (text : Text) :
    (∀ step ∈ steps text, step.ahead.head? ≠ some '\'' →
      Lexical .start text (step.before text).length step.state) ∧
    Lexical .start text text.length (State.start.afterText none text) ∧
    (∀ point ∈ reading none text 0, (octets text)[point.offset]? ≠ some '\'' →
      Lexical .start (octets text) point.offset point.state) ∧
    Lexical .start (octets text) (byteSize text) (State.start.afterText none (octets text)) := by
  obtain ⟨each, ends⟩ := lexical_of_mem_steps text
  obtain ⟨eachByte, endsBytes⟩ := lexical_of_mem_steps (octets text)
  refine ⟨each, ends, ?_, length_octets text ▸ endsBytes⟩
  intro point member plain
  rw [reading, List.drop_zero, points_eq_map fun _ _ => List.length_append] at member
  obtain ⟨step, present, rfl⟩ := List.mem_map.mp member
  have byte := getElem?_front (before_append_ahead present)
  simp only [Nat.zero_add, byte] at plain ⊢
  exact eachByte step present plain

-- Inside a run of quotes the rule sees strings where the reading skips pairs.
example : lexicalQuotes .code "''''" = [.code, .single, .single, .single, .code] := by decide
example : (steps "''''").map (·.state.quote) = [.code, .code] := by decide

end SeedCoverage.Sql

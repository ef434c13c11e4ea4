import SeedCoverage.Proofs.Reading.Identifier
import SeedCoverage.Proofs.Reading.Join
import SeedCoverage.Proofs.Reading.Literal
import SeedCoverage.Sql.Split

/-! Cells of a list: trimmed, balanced texts without a comma of their own. Written with a comma and a
blank between them, they come back as they were. -/
namespace SeedCoverage.Sql

open Text

/-- Nothing that closes too much, and no comma at the top level. -/
def inCell (state : State) (lexeme : Lexeme) : Prop :=
  state.strays lexeme = false ∧ ¬(state.atTop = true ∧ lexeme = .char ',')

instance (state : State) (lexeme : Lexeme) : Decidable (inCell state lexeme) :=
  inferInstanceAs (Decidable (_ ∧ _))

structure Cell (text : Text) : Prop where
  filled : text ≠ []
  trimmed : Trimmed text
  reads : Reads inCell .start text .start

/-- Texts with a comma and a blank between each pair of neighbours. -/
def listed (cells : List Text) : Text := join ", " cells

theorem listed_cons (first second : Text) (rest : List Text) :
    listed (first :: second :: rest) = first ++ ',' :: ' ' :: listed (second :: rest) := by
  simp [listed, join]

theorem Cell.balanced {text : Text} (cell : Cell text) : Balanced text :=
  cell.reads.mono fun _ _ steady => steady.1

theorem inCell_of_wordChar {state : State} {c : Char} (word : isWordChar c = true) :
    inCell state (.char c) := by
  have differs (d : Char) (other : isWordChar d = false) : c ≠ d := ne_of_wordChar word other
  refine ⟨?_, ?_⟩
  · simp [State.strays, differs ')' (by decide), differs ']' (by decide)]
  · simp [differs ',' (by decide)]

theorem Cell.of_wordChars {text : Text} (filled : text ≠ [])
    (word : ∀ c ∈ text, isWordChar c = true) : Cell text :=
  ⟨filled, trimmed_of_wordChars word, .chars rfl fun c member =>
    ⟨unmarked_of_wordChar (word c member), inCell_of_wordChar (word c member)⟩⟩

theorem Cell.of_identifier {name : Text} (identifier : isIdentifier name = true) : Cell name :=
  .of_wordChars (ne_nil_of_identifier identifier) (wordChar_of_mem identifier)

theorem Reads.listed {allowed : State → Lexeme → Prop} {state : State} {cells : List Text}
    (code : state.quote = .code) (comma : allowed state (.char ','))
    (space : allowed state (.char ' ')) (each : ∀ cell ∈ cells, Reads allowed state cell state) :
    Reads allowed state (Sql.listed cells) state :=
  .join (.chars code (by simp [comma, space, isMark])) (by simp) (by simp) (by simp) each

theorem at_delimiter {delimiter : Char} {state : State} {c : Char} {next : Option Char}
    (unquoted : delimiter ≠ '\'')
    (absent : ¬(state.atTop = true ∧ Lexeme.at none state c next = .char delimiter)) :
    Lexeme.at (some delimiter) state c next = Lexeme.at none state c next := by
  have kept : ¬(state.atTop = true ∧ c = delimiter) := by
    rintro ⟨top, rfl⟩
    exact absent ⟨top, Lexeme.at_char unquoted⟩
  unfold Lexeme.at
  grind

/-- Where a delimiter does not stand at the top level, it makes no difference to look for it. -/
theorem scan_delimiter {delimiter : Char} {state : State} {previous : Option Char} {text : Text}
    (unquoted : delimiter ≠ '\'')
    (absent : ∀ step ∈ scan none state previous text,
      ¬(step.state.atTop = true ∧ step.lexeme = .char delimiter)) :
    scan (some delimiter) state previous text = scan none state previous text := by
  fun_induction scan none state previous text with
  | case1 => rfl
  | case2 state previous c =>
    have same := at_delimiter unquoted (absent _ (List.mem_singleton.mpr rfl))
    simp [scan, same]
  | case3 state previous c d rest pair ih =>
    have same : Lexeme.at (some delimiter) state c (some d) = .quotePair :=
      (at_delimiter unquoted (by simp [pair])).trans pair
    have later := ih fun step member => absent step (by simp [member])
    simp [scan, same, later]
  | case4 state previous c d rest single ih =>
    have same := at_delimiter unquoted (absent _ List.mem_cons_self)
    have later := ih fun step member => absent step (by simp [member])
    rw [scan_cons (by simpa only [List.head?_cons, same] using single)]
    simp only [List.head?_cons, same, later]

theorem uncut_of_mem_scan {state : State} {previous : Option Char} {text : Text} {step : Step}
    (member : step ∈ scan none state previous text) : step.lexeme.isCut = false := by
  have kept (state : State) (c : Char) (next : Option Char) :
      (Lexeme.at none state c next).isCut = false := by
    unfold Lexeme.at
    grind [Lexeme.isCut]
  fun_induction scan none state previous text with
  | case1 => simp at member
  | case2 => simp_all
  | case3 state previous c d rest pair ih =>
    rcases List.mem_cons.mp member with rfl | later
    · rfl
    · exact ih later
  | case4 state previous c d rest single ih =>
    rcases List.mem_cons.mp member with rfl | later
    · exact kept _ _ _
    · exact ih later

theorem cutPieces_append (run rest : List Step) (uncut : ∀ step ∈ run, step.lexeme.isCut = false) :
    cutPieces (run ++ rest) = (cutPieces rest).modifyHead (stepsText run ++ ·) := by
  obtain ⟨piece, pieces, found⟩ := List.exists_cons_of_ne_nil (cutPieces_ne_nil rest)
  induction run with
  | nil => simp [found, stepsText]
  | cons step run ih =>
    have here := uncut step (by simp)
    have later := ih fun other member => uncut other (by simp [member])
    rw [found, List.modifyHead_cons] at later
    simp [cutPieces, here, later, found, stepsText]

theorem Cell.scan_comma {text : Text} (cell : Cell text) (previous : Option Char) :
    scan (some ',') .start previous text = scan none .start previous text :=
  scan_delimiter (by decide) fun step member => (cell.reads.each_of previous step member).2

theorem Cell.afterText_comma {text : Text} (cell : Cell text) :
    State.start.afterText (some ',') text = .start := by
  rw [afterText_eq_foldl _ _ none, cell.scan_comma, ← afterText_eq_foldl, cell.reads.ends]

private theorem scan_separator (previous : Option Char) (text : Text) :
    scan (some ',') .start previous (',' :: ' ' :: text) =
      ⟨.start, previous, .cut ',', ' ' :: text⟩ :: ⟨.start, some ',', .char ' ', text⟩ ::
        scan (some ',') .start (some ' ') text := by
  rw [scan_cons (by simp [Lexeme.at, State.atTop, State.start, State.outsideParens, State.inQuotes])]
  rw [scan_cons (by simp [Lexeme.at])]
  rfl

theorem cutPieces_cell {text right : Text} (cell : Cell text) (previous : Option Char)
    (apart : Apart text right) :
    cutPieces (scan (some ',') .start previous (text ++ right)) =
      (cutPieces (scan (some ',') .start (lastChar previous text) right)).modifyHead (text ++ ·) := by
  have uncut : ∀ step ∈ (scan none .start previous text).map (Step.extend right),
      step.lexeme.isCut = false := by
    intro step member
    obtain ⟨source, present, rfl⟩ := List.mem_map.mp member
    exact (uncut_of_mem_scan present :)
  rw [scan_append apart, cell.scan_comma, cell.afterText_comma, cutPieces_append _ _ uncut,
    stepsText_extend, stepsText_scan]

theorem cutPieces_separator (previous : Option Char) (text : Text) :
    cutPieces (scan (some ',') .start previous (',' :: ' ' :: text)) =
      [] :: (cutPieces (scan (some ',') .start (some ' ') text)).modifyHead (' ' :: ·) := by
  obtain ⟨piece, pieces, found⟩ :=
    List.exists_cons_of_ne_nil (cutPieces_ne_nil (scan (some ',') .start (some ' ') text))
  rw [scan_separator]
  simp [cutPieces, Lexeme.isCut, Lexeme.text, found]

/-- The cuts of a list stand between its cells. -/
theorem cutPieces_listed {first : Text} {rest : List Text} (previous : Option Char)
    (cells : ∀ cell ∈ first :: rest, Cell cell) :
    cutPieces (scan (some ',') .start previous (listed (first :: rest))) =
      first :: rest.map (' ' :: ·) := by
  have cell := cells first (by simp)
  induction rest generalizing first previous with
  | nil =>
    have apart : Apart first [] := .of_head (by simp)
    have whole := cutPieces_cell cell previous apart
    simpa [listed, join, cutPieces, scan] using whole
  | cons second rest ih =>
    have later := ih (some ' ') (fun other member => cells other (by simp [member]))
      (cells second (by simp))
    rw [listed_cons, cutPieces_cell cell previous (.of_head (by simp)), cutPieces_separator, later]
    simp

theorem dropEmptyEnd_cons {piece : Text} (filled : piece ≠ []) (pieces : List Text) :
    dropEmptyEnd (piece :: pieces) = piece :: dropEmptyEnd pieces := by
  have kept : piece.isEmpty = false := by simpa using filled
  rw [dropEmptyEnd, List.reverse_cons, List.dropWhile_append]
  cases turned : pieces.reverse.dropWhile List.isEmpty <;> simp [dropEmptyEnd, turned, kept]

theorem dropEmptyEnd_eq_self {pieces : List Text} (filled : ∀ piece ∈ pieces, piece ≠ []) :
    dropEmptyEnd pieces = pieces := by
  induction pieces with
  | nil => rfl
  | cons piece rest ih =>
    rw [dropEmptyEnd_cons (filled piece (by simp)), ih fun other member => filled other (by simp [member])]

/-- Cells that are written as a list are read as they were. -/
theorem splitTop_listed {cells : List Text} (each : ∀ cell ∈ cells, Cell cell) :
    splitTop ',' (listed cells) = cells := by
  cases cells with
  | nil => rfl
  | cons first rest =>
    have kept : (first :: rest.map (' ' :: ·)).map trim = first :: rest := by
      have same : ∀ cell ∈ first :: rest, trim cell = cell :=
        fun cell member => (each cell member).trimmed.trim_eq
      simp only [List.map_cons, List.map_map, same first (by simp)]
      congr 1
      refine map_eq_self fun cell member => ?_
      exact (trim_cons (by decide)).trans (same cell (by simp [member]))
    rw [splitTop, cutPieces_listed none each, kept]
    exact dropEmptyEnd_eq_self fun cell member => (each cell member).filled

section Behind

variable {c : Char} (filled : isBlank c = false) (comma : c ≠ ',') (quote : c ≠ '\'') (rest : Text)

include comma quote

theorem cutPieces_word (previous : Option Char) :
    ∃ piece pieces, cutPieces (scan (some ',') .start previous (' ' :: c :: rest)) =
      (' ' :: c :: piece) :: pieces := by
  have space (next : Option Char) : Lexeme.at (some ',') .start ' ' next = .char ' ' := by
    simp [Lexeme.at]
  have letter (state : State) (next : Option Char) : Lexeme.at (some ',') state c next = .char c := by
    simp [Lexeme.at, comma.symm, quote]
  obtain ⟨piece, pieces, found⟩ := List.exists_cons_of_ne_nil
    (cutPieces_ne_nil (scan (some ',') (State.start.read ' ' |>.read c) (some c) rest))
  refine ⟨piece, pieces, ?_⟩
  rw [scan_cons (by simp [space]), space, scan_cons (by simp [letter]), letter]
  simp only [cutPieces, Lexeme.isCut, Lexeme.text, State.after, found]
  rfl

include filled

/-- What stands behind a list without a comma before it becomes part of the last cell, so that the list
does not come back. -/
private theorem pieces_listed_ne {first : Text} {others : List Text} {lead : Text}
    (cells : ∀ cell ∈ first :: others, Cell cell) (previous : Option Char)
    (blank : lead = [] ∨ lead = [' ']) :
    dropEmptyEnd (((cutPieces (scan (some ',') .start previous
      (listed (first :: others) ++ ' ' :: c :: rest))).modifyHead (lead ++ ·)).map trim) ≠
        first :: others := by
  have cell := cells first (by simp)
  have front (text : Text) : trim (lead ++ text) = trim text := by
    rcases blank with rfl | rfl
    · rfl
    · exact trim_cons (by decide)
  induction others generalizing first previous lead with
  | nil =>
    -- The last cell goes on with the word, so that it is longer than it was.
    obtain ⟨piece, pieces, found⟩ := cutPieces_word comma quote rest (lastChar previous first)
    have longer : trim (first ++ ' ' :: c :: piece) = first ++ ' ' :: c :: trimEnd piece := by
      simpa using cell.trimmed.trim_behind cell.filled [' '] filled piece
    rw [listed, join, cutPieces_cell cell previous (.of_head (by simp)), found]
    simp only [List.modifyHead_cons, List.map_cons, front, longer]
    rw [dropEmptyEnd_cons (by simp)]
    intro same
    have sizes := congrArg List.length (List.cons.inj same).1
    simp at sizes
  | cons second others ih =>
    have later := @ih second [' '] (fun other member => cells other (by simp [member])) (some ' ')
      (.inr rfl) (cells second (by simp)) fun _ => trim_cons (by decide)
    have shape : listed (first :: second :: others) ++ ' ' :: c :: rest =
        first ++ ',' :: ' ' :: (listed (second :: others) ++ ' ' :: c :: rest) := by
      simp [listed_cons]
    rw [shape, cutPieces_cell cell previous (.of_head (by simp)), cutPieces_separator]
    simp only [List.modifyHead_cons, List.map_cons, front, List.append_nil, cell.trimmed.trim_eq]
    rw [dropEmptyEnd_cons cell.filled]
    exact fun same => later (List.cons.inj same).2

theorem splitTop_listed_ne {cells : List Text} (some_cell : cells ≠ [])
    (each : ∀ cell ∈ cells, Cell cell) :
    splitTop ',' (listed cells ++ ' ' :: c :: rest) ≠ cells := by
  obtain ⟨first, others, rfl⟩ := List.exists_cons_of_ne_nil some_cell
  have differs := pieces_listed_ne filled comma quote rest each none (.inl rfl)
  obtain ⟨piece, pieces, found⟩ := List.exists_cons_of_ne_nil (cutPieces_ne_nil
    (scan (some ',') .start none (listed (first :: others) ++ ' ' :: c :: rest)))
  rw [found] at differs
  rw [splitTop, found]
  exact differs

end Behind

end SeedCoverage.Sql

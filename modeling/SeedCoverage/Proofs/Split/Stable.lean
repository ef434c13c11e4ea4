import SeedCoverage.Proofs.Bytes.Split
import SeedCoverage.Proofs.Reading.Lexical
import SeedCoverage.Proofs.Split.Cells

/-! Splitting at a delimiter, and splitting again what is put together from the pieces. Split one
character at a time, every piece but the last closes all that it opens and none has a delimiter at the
top level, so that the pieces, and what is left of them when they are trimmed, can be told apart again. -/
namespace SeedCoverage.Sql

open Text

/-- The pieces of a text that is read one character at a time. -/
def piecesFrom (delimiter : Char) (state : State) : Text → List Text
  | [] => [[]]
  | c :: rest =>
    if state.atTop ∧ c = delimiter then [] :: piecesFrom delimiter state rest
    else (piecesFrom delimiter (state.read c) rest).modifyHead (c :: ·)

/-- From `state` on, no delimiter stands at the top level. -/
def Uncut (delimiter : Char) : State → Text → Prop
  | _, [] => True
  | state, c :: rest => ¬(state.atTop ∧ c = delimiter) ∧ Uncut delimiter (state.read c) rest

/-- Texts that stay apart with a delimiter between each pair of neighbours, the first read from
`state` on. -/
inductive Segments (delimiter : Char) : State → List Text → Prop where
  | last {state : State} {piece : Text} (uncut : Uncut delimiter state piece) :
      Segments delimiter state [piece]
  | cons {state : State} {piece : Text} {rest : List Text} (uncut : Uncut delimiter state piece)
      (closed : piece.foldl State.read state = .start) (later : Segments delimiter .start rest) :
      Segments delimiter state (piece :: rest)

/-- The reading stands on `mark` at the top level. -/
def Step.standsOn (mark : Char) (step : Step) : Bool :=
  step.state.atTop && step.ahead.head? == some mark

/-- What stands before each delimiter between `pieces`, with `passed` before all of them. -/
def fronts (delimiter : Char) (passed : Text) : List Text → List Text
  | [] => []
  | [_] => []
  | piece :: next :: rest =>
    (passed ++ piece) :: fronts delimiter (passed ++ piece ++ [delimiter]) (next :: rest)

variable {delimiter c : Char} {state : State} {previous : Option Char} {text front back : Text}
  {pieces : List Text}

section Lexeme

theorem Lexeme.at_cut (here : state.atTop ∧ c = delimiter) (next : Option Char) :
    Lexeme.at (some delimiter) state c next = .cut c := by
  simp [Lexeme.at, here.1, here.2]

theorem Lexeme.at_uncut (other : ¬(state.atTop ∧ c = delimiter)) (next : Option Char) :
    Lexeme.at (some delimiter) state c next = Lexeme.at none state c next := by
  unfold Lexeme.at
  grind

end Lexeme

theorem piecesFrom_delimiter (here : state.atTop ∧ c = delimiter) (rest : Text) :
    piecesFrom delimiter state (c :: rest) = [] :: piecesFrom delimiter state rest := by
  rw [piecesFrom, if_pos here]

theorem piecesFrom_char (other : ¬(state.atTop ∧ c = delimiter)) (rest : Text) :
    piecesFrom delimiter state (c :: rest) =
      (piecesFrom delimiter (state.read c) rest).modifyHead (c :: ·) := by
  rw [piecesFrom, if_neg other]

/-- If quotes are delimiters, a string that is read does not close at the top level. -/
def Sheltered (delimiter : Char) (state : State) : Prop :=
  delimiter = '\'' → state.quote = .single → (state.read '\'').atTop = false

/-- A string opens only where the quote that opens it is no delimiter. -/
theorem Sheltered.read (sheltered : Sheltered delimiter state)
    (uncut : ¬(state.atTop ∧ c = delimiter)) : Sheltered delimiter (state.read c) := by
  intro quote string
  rw [quote_read] at string
  cases open' : state.quote with
  | code =>
    have mark : c = '\'' := by
      rw [open'] at string
      grind [Quote.read]
    subst mark
    rw [State.read_quotes (by simp [open'])]
    simpa [quote] using uncut
  | single =>
    have same : state.read c = state := by
      rw [open'] at string
      rcases state with ⟨quote, parens, brackets⟩
      obtain rfl : quote = .single := open'
      exact congrArg (State.mk · parens brackets) string
    rw [same]
    exact sheltered quote open'
  | double =>
    rw [open'] at string
    grind [Quote.read]

theorem cutPieces_uncut {step : Step} (uncut : step.lexeme.isCut = false) (run : List Step) :
    cutPieces (step :: run) = (cutPieces run).modifyHead (step.lexeme.text ++ ·) := by
  have single := cutPieces_append [step] run (by simpa using uncut)
  simpa [stepsText] using single

/-- The pieces between the cuts of a reading are those that are split one character at a time. -/
theorem cutPieces_scan (sheltered : Sheltered delimiter state) (previous : Option Char) (text : Text) :
    cutPieces (scan (some delimiter) state previous text) = piecesFrom delimiter state text := by
  fun_induction scan (some delimiter) state previous text with
  | case1 => rfl
  | case2 state previous c =>
    by_cases here : state.atTop ∧ c = delimiter
    · rw [piecesFrom_delimiter here, Lexeme.at_cut here]
      rfl
    · rw [piecesFrom_char here, Lexeme.at_uncut here, Lexeme.at_of_single Lexeme.at_none_ne_pair]
      rfl
  | case3 state previous c d rest pair ih =>
    obtain ⟨rfl, rfl⟩ := Lexeme.eq_quotes_of_pair pair
    have first : ¬(state.atTop ∧ '\'' = delimiter) := by
      intro here
      rw [Lexeme.at_cut here] at pair
      cases pair
    -- In a string the second quote is not at the top level: neither behind one that opens it, nor
    -- behind one that closes it.
    have second : ¬((state.read '\'').atTop ∧ '\'' = delimiter) := by
      rintro ⟨top, rfl⟩
      cases open' : state.quote with
      | code =>
        have outside := (State.atTop_iff _).mp top
        have string : (state.read '\'').quote = .single := by rw [quote_read, open']; rfl
        rw [outside] at string
        cases string
      | single => exact Bool.false_ne_true ((sheltered rfl open').symm.trans top)
      | double => exact Lexeme.unquoted_of_pair pair open'
    rw [cutPieces_uncut rfl, ih sheltered, piecesFrom_char first, piecesFrom_char second,
      State.read_quotes (Lexeme.unquoted_of_pair pair), List.modifyHead_modifyHead]
    rfl
  | case4 state previous c d rest single ih =>
    by_cases here : state.atTop ∧ c = delimiter
    · rw [Lexeme.at_cut here] at ih ⊢
      rw [piecesFrom_delimiter here]
      exact congrArg ([] :: ·) (ih sheltered)
    · rw [Lexeme.at_uncut here] at single ih ⊢
      rw [Lexeme.at_of_single single] at ih ⊢
      rw [cutPieces_uncut rfl, ih (sheltered.read here), piecesFrom_char here]
      rfl

theorem splitTop_eq_pieces (delimiter : Char) (text : Text) :
    splitTop delimiter text = dropEmptyEnd ((piecesFrom delimiter .start text).map trim) := by
  rw [splitTop, cutPieces_scan fun _ string => by cases string]

section Pieces

theorem piecesFrom_ne_nil (delimiter : Char) (state : State) (text : Text) :
    piecesFrom delimiter state text ≠ [] := by
  induction text generalizing state with
  | nil => simp [piecesFrom]
  | cons c rest ih =>
    rw [piecesFrom]
    split
    · simp
    · simpa using ih (state.read c)

theorem join_piecesFrom (delimiter : Char) (state : State) (text : Text) :
    join [delimiter] (piecesFrom delimiter state text) = text := by
  induction text generalizing state with
  | nil => rfl
  | cons c rest ih =>
    rw [piecesFrom]
    split
    · rename_i here
      obtain ⟨first, others, pieces⟩ :=
        List.exists_cons_of_ne_nil (piecesFrom_ne_nil delimiter state rest)
      have later := ih state
      rw [pieces] at later ⊢
      rw [join_cons_cons, later, here.2]
      rfl
    · obtain ⟨first, others, pieces⟩ :=
        List.exists_cons_of_ne_nil (piecesFrom_ne_nil delimiter (state.read c) rest)
      have later := ih (state.read c)
      rw [pieces] at later ⊢
      rw [← later]
      cases others <;> rfl

theorem uncut_append :
    Uncut delimiter state (front ++ back) ↔
      Uncut delimiter state front ∧ Uncut delimiter (front.foldl State.read state) back := by
  induction front generalizing state with
  | nil => simp [Uncut]
  | cons c rest ih => simp only [List.cons_append, Uncut, ih, List.foldl_cons, and_assoc]

theorem piecesFrom_uncut (uncut : Uncut delimiter state text) :
    piecesFrom delimiter state text = [text] := by
  induction text generalizing state with
  | nil => rfl
  | cons c rest ih =>
    rw [piecesFrom_char uncut.1, ih uncut.2]
    rfl

/-- A piece that closes all that it opens ends at the delimiter behind it. -/
theorem piecesFrom_cut (uncut : Uncut delimiter state front)
    (closed : front.foldl State.read state = .start) (back : Text) :
    piecesFrom delimiter state (front ++ delimiter :: back) =
      front :: piecesFrom delimiter .start back := by
  induction front generalizing state with
  | nil =>
    obtain rfl : state = .start := closed
    rw [List.nil_append, piecesFrom_delimiter ⟨rfl, rfl⟩]
  | cons c rest ih =>
    rw [List.cons_append, piecesFrom_char uncut.1, ih uncut.2 closed]
    rfl

end Pieces

namespace Segments

theorem ne_nil (segments : Segments delimiter state pieces) : pieces ≠ [] := by
  cases segments <;> simp

theorem extend (uncut : ¬(state.atTop ∧ c = delimiter))
    (segments : Segments delimiter (state.read c) pieces) :
    Segments delimiter state (pieces.modifyHead (c :: ·)) := by
  cases segments with
  | last later => exact .last ⟨uncut, later⟩
  | cons later closed others => exact .cons ⟨uncut, later⟩ closed others

/-- The pieces of a text stay apart. -/
theorem of_pieces (delimiter : Char) (state : State) (text : Text) :
    Segments delimiter state (piecesFrom delimiter state text) := by
  induction text generalizing state with
  | nil => exact .last trivial
  | cons c rest ih =>
    rw [piecesFrom]
    split
    · rename_i here
      obtain rfl := (State.atTop_iff state).mp here.1
      exact .cons trivial rfl (ih .start)
    · rename_i other
      exact extend other (ih (state.read c))

/-- What stays apart is split again. -/
theorem piecesFrom_join (segments : Segments delimiter state pieces) :
    piecesFrom delimiter state (join [delimiter] pieces) = pieces := by
  induction segments with
  | last uncut => exact piecesFrom_uncut uncut
  | @cons state piece rest uncut closed later ih =>
    obtain ⟨next, others, rfl⟩ := List.exists_cons_of_ne_nil later.ne_nil
    rw [join_cons_cons, List.singleton_append, piecesFrom_cut uncut closed, ih]

theorem of_prefix {first : List Text} (segments : Segments delimiter state pieces)
    (begins : first <+: pieces) (some_piece : first ≠ []) : Segments delimiter state first := by
  induction segments generalizing first with
  | @last state piece uncut =>
    obtain ⟨other, rest, rfl⟩ := List.exists_cons_of_ne_nil some_piece
    obtain ⟨rfl, nothing⟩ := List.cons_prefix_cons.mp begins
    obtain rfl := List.prefix_nil.mp nothing
    exact .last uncut
  | @cons state piece others uncut closed later ih =>
    obtain ⟨other, rest, rfl⟩ := List.exists_cons_of_ne_nil some_piece
    obtain ⟨rfl, more⟩ := List.cons_prefix_cons.mp begins
    by_cases ends : rest = []
    · subst ends
      exact .last uncut
    · exact .cons uncut closed (ih more ends)

end Segments

section Blanks

theorem State.read_blank (blank : isBlank c = true) (state : State) : state.read c = state := by
  have other {d : Char} (filled : isBlank d = false) : c ≠ d := by
    rintro rfl
    exact Bool.false_ne_true (filled.symm.trans blank)
  rcases state with ⟨quote, parens, brackets⟩
  cases quote <;> simp (disch := decide) [State.read, Quote.read, other]

theorem foldl_read_blank (blank : ∀ c ∈ text, isBlank c = true) (state : State) :
    text.foldl State.read state = state := by
  induction text with
  | nil => rfl
  | cons c rest ih =>
    rw [List.foldl_cons, State.read_blank (blank c (by simp)),
      ih fun d member => blank d (by simp [member])]

/-- A text leaves open what it leaves open when it is trimmed. -/
theorem foldl_read_trim (state : State) (text : Text) :
    (trim text).foldl State.read state = text.foldl State.read state := by
  obtain ⟨lead, tail, whole, leadBlank, tailBlank⟩ := exists_trim text
  conv => rhs; rw [whole]
  rw [List.foldl_append, List.foldl_append, foldl_read_blank leadBlank, foldl_read_blank tailBlank]

theorem Uncut.trim (uncut : Uncut delimiter state text) : Uncut delimiter state (trim text) := by
  obtain ⟨lead, tail, whole, leadBlank, _⟩ := exists_trim text
  rw [whole, uncut_append, uncut_append, foldl_read_blank leadBlank] at uncut
  exact uncut.2.1

theorem Segments.trim (segments : Segments delimiter state pieces) :
    Segments delimiter state (pieces.map trim) := by
  induction segments with
  | last uncut => exact .last uncut.trim
  | cons uncut closed later ih =>
    exact .cons uncut.trim ((foldl_read_trim _ _).trans closed) ih

end Blanks

section EmptyEnd

theorem exists_dropEmptyEnd (pieces : List Text) :
    ∃ count, pieces = dropEmptyEnd pieces ++ List.replicate count [] := by
  have empty : ∀ piece ∈ pieces.reverse.takeWhile List.isEmpty, piece = [] :=
    fun piece member => List.isEmpty_iff.mp (List.mem_takeWhile_imp member)
  refine ⟨(pieces.reverse.takeWhile List.isEmpty).length, ?_⟩
  calc pieces
    _ = (pieces.reverse.takeWhile List.isEmpty ++ pieces.reverse.dropWhile List.isEmpty).reverse := by
      rw [List.takeWhile_append_dropWhile, List.reverse_reverse]
    _ = dropEmptyEnd pieces ++ (pieces.reverse.takeWhile List.isEmpty).reverse :=
      List.reverse_append
    _ = dropEmptyEnd pieces ++
          List.replicate (pieces.reverse.takeWhile List.isEmpty).length [] := by
      rw [← List.reverse_replicate, ← List.eq_replicate_of_mem empty]

theorem getLast?_dropEmptyEnd (pieces : List Text) : (dropEmptyEnd pieces).getLast? ≠ some [] := by
  intro last
  have first := List.head?_dropWhile_not List.isEmpty pieces.reverse
  rw [dropEmptyEnd, List.getLast?_reverse] at last
  rw [last] at first
  cases first

theorem dropEmptyEnd_of_getLast? (filled : pieces.getLast? ≠ some []) :
    dropEmptyEnd pieces = pieces := by
  obtain ⟨count, parts⟩ := exists_dropEmptyEnd pieces
  cases count with
  | zero => simpa using parts.symm
  | succ count =>
    rw [List.replicate_succ', ← List.append_assoc] at parts
    rw [parts, List.getLast?_concat] at filled
    exact absurd rfl filled

end EmptyEnd

section Parts

theorem map_trim_pieces (delimiter : Char) (text : Text) :
    ∃ count, (piecesFrom delimiter .start text).map trim =
      splitTop delimiter text ++ List.replicate count [] := by
  rw [splitTop_eq_pieces]
  exact exists_dropEmptyEnd _

theorem getLast?_splitTop (delimiter : Char) (text : Text) :
    (splitTop delimiter text).getLast? ≠ some [] := by
  rw [splitTop_eq_pieces]
  exact getLast?_dropEmptyEnd _

theorem trim_of_mem_splitTop {part : Text} (member : part ∈ splitTop delimiter text) :
    trim part = part := by
  obtain ⟨count, parts⟩ := map_trim_pieces delimiter text
  have source := List.mem_append_left (List.replicate count []) member
  rw [← parts] at source
  obtain ⟨piece, _, rfl⟩ := List.mem_map.mp source
  exact trim_trim piece

theorem segments_splitTop (some_part : splitTop delimiter text ≠ []) :
    Segments delimiter .start (splitTop delimiter text) := by
  obtain ⟨count, parts⟩ := map_trim_pieces delimiter text
  exact (Segments.of_pieces delimiter .start text).trim.of_prefix ⟨_, parts.symm⟩ some_part

theorem splitTop_join (delimiter : Char) (text : Text) :
    splitTop delimiter (join [delimiter] (splitTop delimiter text)) = splitTop delimiter text := by
  by_cases nothing : splitTop delimiter text = []
  · rw [nothing]
    rfl
  · rw [splitTop_eq_pieces delimiter (join _ _), (segments_splitTop nothing).piecesFrom_join,
      map_eq_self fun _ member => trim_of_mem_splitTop member,
      dropEmptyEnd_of_getLast? (getLast?_splitTop delimiter text)]

end Parts

section Fronts

theorem fronts_modifyHead (delimiter : Char) (passed lead : Text) (pieces : List Text) :
    fronts delimiter passed (pieces.modifyHead (lead ++ ·)) =
      fronts delimiter (passed ++ lead) pieces := by
  match pieces with
  | [] => rfl
  | [_] => rfl
  | piece :: next :: rest => simp [fronts]

theorem Lexeme.isCut_at (delimiter : Char) (state : State) (c : Char) (next : Option Char) :
    (Lexeme.at (some delimiter) state c next).isCut = (state.atTop && some c == some delimiter) := by
  unfold Lexeme.at
  grind [Lexeme.isCut]

/-- What the first step of a reading adds to the fronts, with `step.rest` behind it. -/
private theorem fronts_step (step : Step) {next : Option Char} (run : List Step) (passed : Text)
    (lexeme : step.lexeme = Lexeme.at (some delimiter) step.state c next)
    (begins : step.ahead.head? = some c)
    (fits : ∀ later ∈ run, later.ahead.length ≤ step.rest.length)
    (ih : ∀ passed, fronts delimiter passed (cutPieces run) =
      (run.filter (Step.standsOn delimiter)).map fun later => passed ++ later.before step.rest) :
    fronts delimiter passed (cutPieces (step :: run)) =
      ((step :: run).filter (Step.standsOn delimiter)).map
        fun later => passed ++ later.before step.ahead := by
  have later : (run.filter (Step.standsOn delimiter)).map
        (fun later => passed ++ later.before step.ahead) =
      fronts delimiter (passed ++ step.lexeme.text) (cutPieces run) := by
    rw [ih]
    refine List.map_congr_left fun later member => ?_
    rw [Step.ahead, Step.before_append (fits later (List.mem_filter.mp member).1),
      List.append_assoc]
  have same : step.standsOn delimiter = step.lexeme.isCut := by
    rw [Step.standsOn, begins, lexeme, Lexeme.isCut_at]
  cases cuts : step.lexeme.isCut with
  | true =>
    have mark : step.lexeme.text = [delimiter] := by
      rw [lexeme] at cuts ⊢
      rw [Lexeme.text_at (by rintro pair; rw [pair] at cuts; cases cuts)]
      rw [Lexeme.isCut_at] at cuts
      simpa using (Bool.and_eq_true_iff.mp cuts).2
    have front : step.before step.ahead = [] := by simp [Step.before]
    obtain ⟨first, others, pieces⟩ := List.exists_cons_of_ne_nil (cutPieces_ne_nil run)
    rw [List.filter_cons_of_pos (same.trans cuts), List.map_cons, later, front, mark, cutPieces,
      if_pos cuts, pieces, fronts, List.append_nil]
  | false =>
    rw [List.filter_cons_of_neg (by rw [same, cuts]; simp), later, cutPieces_uncut cuts,
      fronts_modifyHead]

/-- What stands before the delimiters between the pieces is what stands before the steps that are on a
delimiter at the top level. -/
theorem fronts_cutPieces (delimiter : Char) (state : State) (previous : Option Char)
    (passed text : Text) :
    fronts delimiter passed (cutPieces (scan (some delimiter) state previous text)) =
      ((scan (some delimiter) state previous text).filter (Step.standsOn delimiter)).map
        fun step => passed ++ step.before text := by
  fun_induction scan (some delimiter) state previous text generalizing passed with
  | case1 => rfl
  | case2 state previous c =>
    let step : Step := ⟨state, previous, Lexeme.at (some delimiter) state c none, []⟩
    have whole : step.ahead = [c] := by
      rw [Step.ahead, Lexeme.text_at Lexeme.at_none_ne_pair, List.append_nil]
    have first := fronts_step step [] passed rfl (by rw [whole]; rfl) (by simp)
      fun _ => rfl
    rwa [whole] at first
  | case3 state previous c d rest pair ih =>
    obtain ⟨rfl, rfl⟩ := Lexeme.eq_quotes_of_pair pair
    exact fronts_step ⟨state, previous, .quotePair, rest⟩ _ passed pair.symm rfl
      (fun step member => ahead_of_mem_scan member) ih
  | case4 state previous c d rest single ih =>
    let step : Step := ⟨state, previous, Lexeme.at (some delimiter) state c (some d), d :: rest⟩
    have whole : step.ahead = c :: d :: rest := by
      rw [Step.ahead, Lexeme.text_at single]
      rfl
    have first := fronts_step step _ passed rfl (by rw [whole]; rfl)
      (fun step member => ahead_of_mem_scan member) ih
    rwa [whole] at first

end Fronts

/-- A text is parted at just those delimiters on which its reading stands at the top level. The parts
are trimmed, and the empty ones at the end go. Put together with delimiters, what is left is split as
before. -/
theorem splitTop_exact (delimiter : Char) (text : Text) :
    (∃ pieces, pieces ≠ [] ∧ join [delimiter] pieces = text ∧
      fronts delimiter [] pieces =
        ((scan (some delimiter) .start none text).filter (Step.standsOn delimiter)).map
          (Step.before text) ∧
      ∃ count, pieces.map trim = splitTop delimiter text ++ List.replicate count []) ∧
    (splitTop delimiter text).getLast? ≠ some [] ∧
    splitTop delimiter (join [delimiter] (splitTop delimiter text)) = splitTop delimiter text := by
  have pieces : cutPieces (scan (some delimiter) .start none text) =
      piecesFrom delimiter .start text := cutPieces_scan (fun _ string => by cases string) none text
  refine ⟨⟨piecesFrom delimiter .start text, piecesFrom_ne_nil delimiter .start text,
    join_piecesFrom delimiter .start text, ?_, map_trim_pieces delimiter text⟩,
    getLast?_splitTop delimiter text, splitTop_join delimiter text⟩
  rw [← pieces]
  exact fronts_cutPieces delimiter .start none [] text

example : splitTop ',' "'a,', ,(b, c) ,," = ["'a,'".toList, [], "(b, c)".toList] := by decide +kernel

end SeedCoverage.Sql

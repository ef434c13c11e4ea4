import SeedCoverage.Proofs.Bytes.Search
import SeedCoverage.Proofs.Split.Union

/-! Cutting by offset. Every piece is cut from the offset behind the last delimiter or phrase to that
of the next one, and the pieces are those that are cut among the characters. -/
namespace SeedCoverage.Sql.Bytes

open Text

/-- The trimmed pieces from an offset on, cut at the delimiters of the reading. -/
def splitFrom (text : Text) (start : Nat) : List Point → Checked (List Text)
  | [] => do return [trim (← cutFrom text start)]
  | point :: rest =>
    if point.lexeme.isCut then do
      let piece ← cut text start point.offset
      return trim piece :: (← splitFrom text (point.offset + 1) rest)
    else splitFrom text start rest

def splitTop (delimiter : Char) (text : Text) : Checked (List Text) := do
  return dropEmptyEnd (← splitFrom text 0 (reading (some delimiter) text 0))

/-- The texts around every UNION ALL from an offset on. -/
def unionFrom (text : Text) (cursor : Nat) : Checked (List Text) := do
  match ← findSpan unionAll text cursor with
  | none => return [← cutFrom text cursor]
  | some (first, last) =>
    let piece ← cut text cursor first
    if _moved : cursor < last ∧ last ≤ byteSize text then return piece :: (← unionFrom text last)
    else throw .stalled
termination_by byteSize text - cursor

def unionClauses (text : Text) : Checked (List Text) := do
  return ((← unionFrom text 0).map trim).filter fun clause => !clause.isEmpty

variable {text front piece : Text} {delimiter : Char}

theorem splitFrom_filter (text : Text) (start : Nat) (run : List Point) :
    splitFrom text start run = splitFrom text start (run.filter Point.inAscii) := by
  induction run generalizing start with
  | nil => rfl
  | cons point rest ih =>
    cases ascii : point.inAscii with
    | true => rw [List.filter_cons_of_pos ascii, splitFrom, splitFrom, ← ih, ← ih]
    | false =>
      obtain ⟨c, lexeme, _⟩ := point.lexeme_of_high ascii
      rw [List.filter_cons_of_neg (by simp [ascii]), splitFrom, lexeme, ← ih]
      rfl

theorem eq_of_cut {state : State} {previous : Option Char} {c : Char} {step : Step}
    (member : step ∈ scan (some delimiter) state previous text) (cuts : step.lexeme = .cut c) :
    c = delimiter := by
  have whole {state : State} {d : Char} {next : Option Char}
      (cuts : Lexeme.at (some delimiter) state d next = .cut c) : c = delimiter := by
    unfold Lexeme.at at cuts
    split at cuts
    · rename_i here
      obtain rfl := Lexeme.cut.inj cuts
      simpa using (beq_iff_eq.mp (Bool.and_eq_true_iff.mp here).2).symm
    · split at cuts <;> cases cuts
  fun_induction scan (some delimiter) state previous text with
  | case1 => cases member
  | case2 state previous d =>
    obtain rfl := List.mem_singleton.mp member
    exact whole cuts
  | case3 state previous d e rest pair ih =>
    rcases List.mem_cons.mp member with rfl | later
    · cases cuts
    · exact ih later
  | case4 state previous d e rest single ih =>
    rcases List.mem_cons.mp member with rfl | later
    · exact whole cuts
    · exact ih later

/-- The piece that is under way, from `front` on, goes on into the first piece of the rest. -/
theorem splitFrom_points (front piece : Text) {run : List Step} {first : Text} {others : List Text}
    (signs : ∀ step ∈ run, step.lexeme.isCut = true → byteSize step.lexeme.text = 1)
    (pieces : cutPieces run = first :: others) :
    splitFrom (front ++ (piece ++ stepsText run)) (byteSize front)
        (points byteSize (byteSize (front ++ piece)) run) =
      .ok (((piece ++ first) :: others).map trim) := by
  induction run generalizing front piece first others with
  | nil =>
    obtain ⟨rfl, rfl⟩ := List.cons.inj pieces
    have last : cutFrom (front ++ (piece ++ stepsText [])) (byteSize front) = .ok (piece ++ []) :=
      cutFrom_ok rfl rfl
    rw [points, splitFrom, last]
    rfl
  | cons step rest ih =>
    have later := fun other member => signs other (List.mem_cons_of_mem step member)
    have text : stepsText (step :: rest) = step.lexeme.text ++ stepsText rest := List.flatMap_cons
    obtain ⟨next, more, inner⟩ := List.exists_cons_of_ne_nil (cutPieces_ne_nil rest)
    rw [cutPieces, inner] at pieces
    rw [points, splitFrom]
    split at pieces
    · rename_i cuts
      obtain ⟨rfl, rfl⟩ := List.cons.inj pieces
      have done : cut (front ++ (piece ++ stepsText (step :: rest))) (byteSize front)
          (byteSize (front ++ piece)) = .ok piece := cut_ok rfl rfl rfl
      have size : byteSize (front ++ piece ++ step.lexeme.text) = byteSize (front ++ piece) + 1 := by
        rw [byteSize_append, signs step List.mem_cons_self cuts]
      have goes := @ih (front ++ piece ++ step.lexeme.text) [] next more later inner
      rw [List.append_nil, List.nil_append, List.nil_append, List.append_assoc _ _ (stepsText rest),
        ← text, List.append_assoc, size] at goes
      rw [if_pos cuts, done, signs step List.mem_cons_self cuts]
      simp only [bind, Except.bind, goes, List.append_nil]
      rfl
    · rename_i uncut
      obtain ⟨rfl, rfl⟩ := List.cons.inj pieces
      have goes := @ih front (piece ++ step.lexeme.text) next more later inner
      have place : byteSize (front ++ (piece ++ step.lexeme.text)) =
          byteSize (front ++ piece) + byteSize step.lexeme.text := by
        rw [← List.append_assoc, byteSize_append]
      rw [place, List.append_assoc piece, ← text, List.append_assoc piece] at goes
      rw [if_neg uncut]
      exact goes

theorem splitTop_eq (ascii : isAsciiChar delimiter = true) (text : Text) :
    splitTop delimiter text = .ok (Sql.splitTop delimiter text) := by
  have signs : ∀ step ∈ scan (some delimiter) .start none text,
      step.lexeme.isCut = true → byteSize step.lexeme.text = 1 := by
    intro step member cuts
    cases lexeme : step.lexeme with
    | cut c =>
      rw [eq_of_cut member lexeme]
      exact byteSize_singleton ascii
    | char c => rw [lexeme] at cuts; cases cuts
    | quotePair => rw [lexeme] at cuts; cases cuts
  obtain ⟨first, others, pieces⟩ :=
    List.exists_cons_of_ne_nil (cutPieces_ne_nil (scan (some delimiter) .start none text))
  have split := splitFrom_points [] [] signs pieces
  rw [List.nil_append, List.nil_append, stepsText_scan] at split
  have bytes : reading (some delimiter) text 0 =
      points List.length 0 (scan (some delimiter) .start none (octets text)) := rfl
  rw [splitTop, bytes, splitFrom_filter, points_octets (by simpa using ascii) .start none,
    ← splitFrom_filter]
  have start : byteSize [] = 0 := rfl
  simp only [start, List.nil_append] at split
  rw [split, Sql.splitTop, pieces]
  rfl

/-- What a phrase is found as is not empty, and cuts the text in three. -/
theorem findPhrase_parts {words : List Text} {previous : Option Char} {place : Found}
    (filled : ∀ word ∈ words, word ≠ []) (found : findPhrase words previous text = some place) :
    place.before ++ (place.found ++ place.after) = text ∧ place.found ≠ [] := by
  unfold findPhrase at found
  split at found
  · cases found
  · rename_i some_word
    refine ⟨findStep_whole found, ?_⟩
    obtain ⟨step, member, size, accepted, rfl⟩ := findStep_some found
    unfold Step.phraseSize? at accepted
    split at accepted
    · unfold phraseSize? at accepted
      split at accepted
      · cases accepted
      · obtain ⟨measured, _⟩ := Option.filter_eq_some_iff.mp accepted
        have bounds := wordsSize?_bounds measured filled (by simpa using some_word)
        refine List.ne_nil_of_length_pos ?_
        rw [List.length_take]
        omega
    · cases accepted

theorem unionFrom_eq (front back : Text) :
    unionFrom (front ++ back) (byteSize front) = .ok (unionPieces front.getLast? back) := by
  have filled : ∀ word ∈ unionAll, word ≠ [] := by decide
  have ascii : ∀ word ∈ unionAll, ∀ c ∈ word, isAsciiChar c = true := by decide
  induction size : back.length using Nat.strongRecOn generalizing front back with
  | _ size ih =>
    rw [unionFrom, findSpan_eq ascii filled]
    cases found : findPhrase unionAll front.getLast? back with
    | none =>
      have last : cutFrom (front ++ back) (byteSize front) = .ok back := cutFrom_ok rfl rfl
      rw [unionPieces_absent found]
      simp only [Option.map_none, bind, Except.bind, last]
      rfl
    | some place =>
      obtain ⟨whole, some_letter⟩ := findPhrase_parts filled found
      have shorter := findPhrase_after_length found filled
      have piece : cut (front ++ back) (byteSize front) (byteSize (front ++ place.before)) =
          .ok place.before := cut_ok (by rw [whole]) rfl rfl
      have parts : front ++ back = front ++ (place.before ++ place.found) ++ place.after := by
        rw [List.append_assoc, List.append_assoc, whole]
      have last : (front ++ (place.before ++ place.found)).getLast? = place.found.getLast? := by
        rw [← List.append_assoc, List.getLast?_append, List.getLast?_eq_some_getLast some_letter]
        rfl
      have later := ih _ (size ▸ shorter) (front ++ (place.before ++ place.found)) place.after rfl
      rw [← parts, last] at later
      have moved : byteSize front < byteSize (front ++ (place.before ++ place.found)) ∧
          byteSize (front ++ (place.before ++ place.found)) ≤ byteSize (front ++ back) := by
        have wider := byteSize_pos some_letter
        conv => arg 2; rhs; rw [parts]
        simp only [byteSize_append]
        omega
      rw [unionPieces_found found]
      simp only [Option.map_some, span, bind, Except.bind, piece]
      rw [dif_pos moved, later]
      rfl

theorem unionClauses_eq (text : Text) : unionClauses text = .ok (Sql.unionClauses text) := by
  have pieces := unionFrom_eq [] text
  rw [List.nil_append] at pieces
  rw [unionClauses, show (0 : Nat) = byteSize [] from rfl, pieces]
  rfl

end SeedCoverage.Sql.Bytes

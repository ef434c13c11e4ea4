import SeedCoverage.Proofs.Bytes.Split
import SeedCoverage.Sql.Insert

/-! Reading rows by offset. A row of a VALUES list is cut from behind the parenthesis that opens it to
the one that closes it, and a projection from behind SELECT to where it ends. -/
namespace SeedCoverage.Sql

open Text

section Groups

variable {step : Step}

/-- The texts in parentheses that a run closes, where `piece` has been read of the first one. -/
def groupsFrom (piece : Text) (run : List Step) : List Text :=
  if run.any Step.closesAll then
    (piece ++ stepsText (run.takeWhile fun step => !step.closesAll)) :: groupTexts run
  else groupTexts run

theorem groupTexts_opens (opens : step.opensRow = true) (run : List Step) :
    groupTexts (step :: run) = groupsFrom [] run := by
  rw [groupTexts, opens, Bool.true_and]
  rfl

theorem groupTexts_passes (opens : step.opensRow = false) (run : List Step) :
    groupTexts (step :: run) = groupTexts run := by
  rw [groupTexts, opens, Bool.false_and, if_neg Bool.false_ne_true]

theorem groupsFrom_closes (closes : step.closesAll = true) (piece : Text) (run : List Step) :
    groupsFrom piece (step :: run) = piece :: groupTexts (step :: run) := by
  rw [groupsFrom, List.any_cons, closes, Bool.true_or, if_pos rfl,
    List.takeWhile_cons_of_neg (by simp [closes])]
  exact congrArg (· :: _) (List.append_nil piece)

theorem groupsFrom_passes (opens : step.opensRow = false) (closes : step.closesAll = false)
    (piece : Text) (run : List Step) :
    groupsFrom piece (step :: run) = groupsFrom (piece ++ step.lexeme.text) run := by
  rw [groupsFrom, groupTexts_passes opens, List.any_cons, closes, Bool.false_or,
    List.takeWhile_cons_of_pos (by simp [closes]), groupsFrom, List.append_assoc]
  rfl

namespace Step

/-- Parentheses are opened and closed where rows are, and otherwise stay as they are. -/
theorem parens_next (opens : step.opensRow = false) (closes : step.closesAll = false) :
    (step.next.parens == 0) = (step.state.parens == 0) := by
  rcases step with ⟨⟨quote, parens, brackets⟩, previous, lexeme, rest⟩
  cases lexeme with
  | quotePair => rfl
  | cut c => rfl
  | char c =>
    cases quote with
    | single => rfl
    | double => rfl
    | code =>
      by_cases left : c = '('
      · subst left
        cases parens with
        | zero => simp [Step.opensRow, State.outsideParens, State.inQuotes, Step.isChar] at opens
        | succ depth => simp [Step.next, State.after, State.read]
      · by_cases right : c = ')'
        · subst right
          simp [Step.closesAll, Step.isChar, Step.next, State.after, State.read,
            State.outsideParens, State.inQuotes] at closes
          simp [Step.next, State.after, State.read]
          omega
        · simp only [Step.next, State.after, State.read, left, right, ↓reduceIte]
          split
          · rfl
          · split <;> rfl

theorem outside_of_closes (closes : step.closesAll = true) :
    step.next.parens = 0 ∧ step.opensRow = false := by
  obtain ⟨sign, outside⟩ := Bool.and_eq_true_iff.mp closes
  refine ⟨beq_iff_eq.mp (Bool.and_eq_true_iff.mp outside).2, ?_⟩
  have lexeme : step.lexeme = .char ')' := beq_iff_eq.mp sign
  simp [Step.opensRow, Step.isChar, lexeme]

theorem inside_of_opens (opens : step.opensRow = true) :
    step.state.parens = 0 ∧ step.next.parens = 1 ∧ step.lexeme = .char '(' := by
  rcases step with ⟨⟨quote, parens, brackets⟩, previous, lexeme, rest⟩
  simp only [Step.opensRow, Step.isChar, State.outsideParens, State.inQuotes, Bool.and_eq_true,
    Bool.not_eq_true', bne_eq_false_iff_eq, beq_iff_eq] at opens
  obtain ⟨⟨rfl, rfl⟩, rfl⟩ := opens
  exact ⟨rfl, rfl, rfl⟩

end Step

end Groups

namespace Bytes

namespace Point

/-- A parenthesis that opens a row. -/
def opensRow (point : Point) : Bool := point.state.outsideParens && point.isChar '('

/-- A semicolon outside parentheses. -/
def endsRows (point : Point) : Bool := point.state.outsideParens && point.isChar ';'

/-- A closing parenthesis that leaves none open. -/
def closesAll (point : Point) : Bool := point.isChar ')' && point.next.outsideParens

end Point

/-- The rows that a reading closes; the one that is open begins at `start`. -/
def rowsFrom (text : Text) (start : Option Nat) : List Point → Checked (List Row)
  | [] => return []
  | point :: rest =>
    if point.endsRows then return []
    else
      let start := if point.opensRow then some (point.offset + 1) else start
      match if point.closesAll then start else none with
      | none => rowsFrom text start rest
      | some first => do
        let row ← splitTop ',' (← cut text first point.offset)
        return row :: (← rowsFrom text none rest)

def valueRows (text : Text) : Checked (List Row) := rowsFrom text none (reading none text 0)

/-- Where the first of several phrases begins that are looked for from an offset on. -/
def findFirst (phrases : List Text) (text : Text) (start : Nat) : Checked (Option Nat) := do
  let places ← phrases.mapM fun phrase => findSpan (words phrase) text start
  return (places.filterMap (Option.map Prod.fst)).min?

/-- Where the expressions end that begin at an offset. -/
def projectionEnd (clause : Text) (start : Nat) : Checked Nat := do
  match ← findSpan ["from"] clause start with
  | some (first, _) => return first
  | none => return (← findFirst tailPhrases clause start).getD (byteSize clause)

def projection (clause : Text) : Checked Row := do
  match ← findSpan (words "select") clause 0 with
  | none => return []
  | some (_, start) =>
    let listed ← cut clause start (← projectionEnd clause start)
    splitTop ',' (dropEndWhile (· == ';') (trim listed))

def selectRows (body : Text) : Checked (List Row) := do
  let rows ← (← unionClauses body).mapM projection
  return rows.filter fun row => !row.isEmpty

/-- Whether some clause reads from a relation. -/
def readsRelation (body : Text) : Checked Bool := do
  (← unionClauses body).anyM fun clause => do return (← findSpan (words "from") clause 0).isSome

section Values

variable {text front piece : Text} {state : State}

theorem rowsFrom_filter (text : Text) (start : Option Nat) (run : List Point) :
    rowsFrom text start run = rowsFrom text start (run.filter Point.inAscii) := by
  induction run generalizing start with
  | nil => rfl
  | cons point rest ih =>
    cases ascii : point.inAscii with
    | true => simp only [List.filter_cons_of_pos ascii, rowsFrom, ← ih]
    | false =>
      have other {sign : Char} (plain : isAsciiChar sign = true) : point.isChar sign = false := by
        cases char : point.isChar sign with
        | false => rfl
        | true =>
          rw [Point.inAscii_of_isChar plain char] at ascii
          cases ascii
      have ends : point.endsRows = false := by rw [Point.endsRows, other rfl, Bool.and_false]
      have opens : point.opensRow = false := by rw [Point.opensRow, other rfl, Bool.and_false]
      have closes : point.closesAll = false := by rw [Point.closesAll, other rfl, Bool.false_and]
      rw [List.filter_cons_of_neg (by simp [ascii]), rowsFrom, ends, opens, closes, ← ih]
      rfl

/-- Read from a state on, a run closes by its offsets the rows that it closes by its characters. Inside
parentheses a row is open, of which `piece` has been read. -/
structure Closes (state : State) (run : List Step) : Prop where
  outside : state.parens = 0 → ∀ front : Text,
    rowsFrom (front ++ stepsText run) none (points byteSize (byteSize front) run) =
      .ok ((groupTexts (run.takeWhile fun step => !step.endsRows)).map (Sql.splitTop ','))
  inside : state.parens ≠ 0 → ∀ front piece : Text,
    rowsFrom (front ++ (piece ++ stepsText run)) (some (byteSize front))
        (points byteSize (byteSize (front ++ piece)) run) =
      .ok ((groupsFrom piece (run.takeWhile fun step => !step.endsRows)).map (Sql.splitTop ','))

theorem rowsFrom_points (text : Text) (start : Option Nat) (offset : Nat) (step : Step)
    (run : List Step) :
    rowsFrom text start (points byteSize offset (step :: run)) =
      if step.endsRows then .ok []
      else
        let start := if step.opensRow then some (offset + 1) else start
        let rest := points byteSize (offset + byteSize step.lexeme.text) run
        match if step.closesAll then start else none with
        | none => rowsFrom text start rest
        | some first => do
          let row ← splitTop ',' (← cut text first offset)
          return row :: (← rowsFrom text none rest) := rfl

namespace Closes

variable {step : Step} {run : List Step}

theorem nil (state : State) : Closes state [] := ⟨fun _ _ => rfl, fun _ _ _ => rfl⟩

theorem stepsText_cons (front : Text) :
    front ++ stepsText (step :: run) = front ++ step.lexeme.text ++ stepsText run := by
  rw [List.append_assoc]
  exact congrArg (front ++ ·) List.flatMap_cons

/-- Outside parentheses a step opens a row, ends the rows or changes nothing. -/
theorem cons_outside (later : Closes step.next run) (closed : step.state.parens = 0) (front : Text) :
    rowsFrom (front ++ stepsText (step :: run)) none (points byteSize (byteSize front) (step :: run)) =
      .ok ((groupTexts ((step :: run).takeWhile fun step => !step.endsRows)).map
        (Sql.splitTop ',')) := by
  rw [rowsFrom_points, stepsText_cons]
  cases ends : step.endsRows with
  | true =>
    rw [List.takeWhile_cons_of_neg (by simp [ends])]
    rfl
  | false =>
    rw [List.takeWhile_cons_of_pos (by simp [ends]), ← byteSize_append]
    cases opens : step.opensRow with
    | true =>
      obtain ⟨_, inside, lexeme⟩ := Step.inside_of_opens opens
      have unclosed : step.closesAll = false := by simp [Step.closesAll, Step.isChar, lexeme]
      have behind : byteSize front + 1 = byteSize (front ++ step.lexeme.text) := by
        rw [byteSize_append, lexeme]
        rfl
      have goes := later.inside (by simp [inside]) (front ++ step.lexeme.text) []
      rw [List.append_nil, List.nil_append] at goes
      rw [groupTexts_opens opens, unclosed, behind]
      exact goes
    | false =>
      have still : step.next.parens = 0 := by
        cases closes : step.closesAll with
        | true => exact (Step.outside_of_closes closes).1
        | false => simpa [closed] using Step.parens_next opens closes
      have goes := later.outside still (front ++ step.lexeme.text)
      rw [groupTexts_passes opens]
      simpa using goes

/-- Inside parentheses a step closes the row that is open, or is read as part of it. -/
theorem cons_inside (later : Closes step.next run) (depth : step.state.parens ≠ 0)
    (front piece : Text) :
    rowsFrom (front ++ (piece ++ stepsText (step :: run))) (some (byteSize front))
        (points byteSize (byteSize (front ++ piece)) (step :: run)) =
      .ok ((groupsFrom piece ((step :: run).takeWhile fun step => !step.endsRows)).map
        (Sql.splitTop ',')) := by
  have covered : step.state.outsideParens = false := by
    rw [State.outsideParens, beq_eq_false_iff_ne.mpr depth, Bool.and_false]
  have ends : step.endsRows = false := by rw [Step.endsRows, covered, Bool.false_and]
  have opens : step.opensRow = false := by rw [Step.opensRow, covered, Bool.false_and]
  rw [rowsFrom_points, List.takeWhile_cons_of_pos (by simp [ends]), ends, opens, stepsText_cons,
    ← byteSize_append, List.append_assoc front]
  cases closes : step.closesAll with
  | true =>
    have row : cut (front ++ (piece ++ step.lexeme.text ++ stepsText run)) (byteSize front)
        (byteSize (front ++ piece)) = .ok piece :=
      cut_ok (by rw [List.append_assoc piece]) rfl rfl
    have goes := later.outside (Step.outside_of_closes closes).1 (front ++ (piece ++ step.lexeme.text))
    rw [List.append_assoc] at goes
    rw [groupsFrom_closes closes, groupTexts_passes opens]
    simp only [Bool.false_eq_true, ↓reduceIte, bind, Except.bind, row,
      splitTop_eq (show isAsciiChar ',' = true from rfl), goes]
    rfl
  | false =>
    have deep : step.next.parens ≠ 0 := by
      have same := Step.parens_next opens closes
      simpa [depth] using same
    rw [groupsFrom_passes opens closes]
    exact later.inside deep front (piece ++ step.lexeme.text)

theorem cons (step : Step) (later : Closes step.next run) : Closes step.state (step :: run) :=
  ⟨later.cons_outside, later.cons_inside⟩

end Closes

theorem closes_scan (state : State) (previous : Option Char) (text : Text) :
    Closes state (scan none state previous text) := by
  fun_induction scan none state previous text with
  | case1 => exact .nil _
  | case2 state previous c => exact .cons ⟨state, previous, _, _⟩ (.nil _)
  | case3 state previous c d rest pair ih => exact .cons ⟨state, previous, .quotePair, rest⟩ ih
  | case4 state previous c d rest single ih => exact .cons ⟨state, previous, _, _⟩ ih

theorem valueRows_eq (text : Text) : valueRows text = .ok (Sql.valueRows text) := by
  have rows := (closes_scan .start none text).outside rfl []
  rw [List.nil_append, stepsText_scan] at rows
  have bytes : reading none text 0 = points List.length 0 (scan none .start none (octets text)) := rfl
  rw [valueRows, bytes, rowsFrom_filter, points_octets ascii_none .start none, ← rowsFrom_filter]
  exact rows

end Values

section Projection

variable {clause front back text : Text} {before : Text} {phrases : List Text}

theorem byteSize_shortest {befores : List Text} (front : Text) {shortest : Text}
    (begins : shortest <+: text) (all : ∀ before ∈ befores, before <+: text) :
    let found := befores.foldl
      (fun shortest before => if before.length < shortest.length then before else shortest) shortest
    found <+: text ∧
      byteSize (front ++ found) =
        (befores.map fun before => byteSize (front ++ before)).foldl min
          (byteSize (front ++ shortest)) := by
  induction befores generalizing shortest with
  | nil => exact ⟨begins, rfl⟩
  | cons before rest ih =>
    have here := all before List.mem_cons_self
    have later := fun other member => all other (List.mem_cons_of_mem before member)
    have least : byteSize (front ++ if before.length < shortest.length then before else shortest) =
        min (byteSize (front ++ shortest)) (byteSize (front ++ before)) := by
      have order := byteSize_lt_iff here begins
      simp only [byteSize_append]
      split <;> omega
    rw [List.foldl_cons, List.map_cons, List.foldl_cons, ← least]
    refine ih ?_ later
    split
    · exact here
    · exact begins

theorem getD_min? {places : List Nat} {limit : Nat} (inside : ∀ place ∈ places, place ≤ limit) :
    places.min?.getD limit = places.foldl min limit := by
  cases places with
  | nil => rfl
  | cons place rest =>
    rw [List.min?_cons', Option.getD_some, List.foldl_cons,
      Nat.min_eq_right (inside place List.mem_cons_self)]

theorem findFirst_eq
    (ascii : ∀ phrase ∈ phrases, ∀ word ∈ words phrase, ∀ c ∈ word, isAsciiChar c = true)
    (front back : Text) :
    findFirst phrases (front ++ back) (byteSize front) =
      .ok ((phrases.filterMap fun phrase =>
        (findPhrase (words phrase) front.getLast? back).map Found.before).map
          fun before => byteSize (front ++ before)).min? := by
  have places := mapM_ok phrases fun phrase member =>
    findSpan_eq (ascii phrase member) wordsFrom_filled front back
  rw [findFirst, places]
  refine congrArg (Except.ok ∘ List.min?) ?_
  rw [List.filterMap_map, List.map_filterMap]
  refine congrArg (List.filterMap · _) (funext fun phrase => ?_)
  simp only [Function.comp_apply, Option.map_map]
  rfl

theorem before_begins {words : List Text} {previous : Option Char} {place : Found}
    (filled : ∀ word ∈ words, word ≠ []) (found : findPhrase words previous text = some place) :
    place.before <+: text :=
  ⟨_, (findPhrase_parts filled found).1⟩

theorem projectionEnd_eq (front back : Text) :
    ∃ listed behind, back = listed ++ behind ∧
      projectionEnd (front ++ back) (byteSize front) = .ok (byteSize (front ++ listed)) ∧
      listed = match findPhrase ["from"] front.getLast? back with
        | some source => source.before
        | none => beforeFirst tailPhrases front.getLast? back := by
  have filled : ∀ word ∈ (["from"] : List Text), word ≠ [] := by decide
  have ascii : ∀ word ∈ (["from"] : List Text), ∀ c ∈ word, isAsciiChar c = true := by decide
  rw [projectionEnd, findSpan_eq ascii filled]
  cases found : findPhrase ["from"] front.getLast? back with
  | some source =>
    exact ⟨source.before, _, (findPhrase_parts filled found).1.symm, rfl, rfl⟩
  | none =>
    have plain : ∀ phrase ∈ tailPhrases, ∀ word ∈ words phrase, ∀ c ∈ word, isAsciiChar c = true := by
      decide
    have begins : ∀ before ∈ tailPhrases.filterMap fun phrase =>
        (findPhrase (words phrase) front.getLast? back).map Found.before, before <+: back := by
      intro before member
      obtain ⟨phrase, _, taken⟩ := List.mem_filterMap.mp member
      obtain ⟨place, found, rfl⟩ := Option.map_eq_some_iff.mp taken
      exact before_begins wordsFrom_filled found
    obtain ⟨⟨behind, whole⟩, size⟩ := byteSize_shortest front (List.prefix_refl back) begins
    refine ⟨_, behind, whole.symm, ?_, rfl⟩
    simp only [Option.map_none, bind, Except.bind, findFirst_eq plain]
    refine congrArg Except.ok ((getD_min? ?_).trans size.symm)
    intro place member
    obtain ⟨before, present, rfl⟩ := List.mem_map.mp member
    obtain ⟨more, parts⟩ := begins before present
    simp only [← parts, byteSize_append]
    omega

theorem projection_eq (clause : Text) : projection clause = .ok (Sql.projection clause) := by
  rw [projection, Sql.projection, findSpan_words (by decide)]
  cases found : phraseIn "select" clause with
  | none => rfl
  | some place =>
    obtain ⟨whole, some_letter⟩ := findPhrase_parts wordsFrom_filled found
    obtain ⟨listed, behind, rest, ends, chosen⟩ :=
      projectionEnd_eq (place.before ++ place.found) place.after
    have last : (place.before ++ place.found).getLast? = place.found.getLast? := by
      rw [List.getLast?_append, List.getLast?_eq_some_getLast some_letter]
      rfl
    rw [last] at chosen
    rw [List.append_assoc, whole] at ends
    have parts : place.before ++ place.found ++ (listed ++ behind) = clause := by
      rw [← rest, List.append_assoc, whole]
    have piece : cut clause (byteSize (place.before ++ place.found))
        (byteSize (place.before ++ place.found ++ listed)) = .ok listed := cut_ok parts rfl rfl
    simp only [Option.map_some, span, List.nil_append, bind, Except.bind, ends, piece]
    rw [splitTop_eq rfl]
    exact congrArg (fun listed => Except.ok (Sql.splitTop ',' (dropEndWhile (· == ';') (trim listed))))
      chosen

theorem selectRows_eq (body : Text) : selectRows body = .ok (Sql.selectRows body) := by
  rw [selectRows, unionClauses_eq]
  simp only [bind, Except.bind, mapM_ok _ fun clause _ => projection_eq clause]
  rfl

theorem readsRelation_eq (body : Text) : readsRelation body = .ok (Sql.readsRelation body) := by
  have source (clause : Text) :
      (do return (← findSpan (words "from") clause 0).isSome : Checked Bool) =
        pure (phraseIn "from" clause).isSome := by
    rw [findSpan_words (by decide)]
    cases phraseIn "from" clause <;> rfl
  rw [readsRelation, unionClauses_eq]
  simp only [source]
  exact List.anyM_pure

end Projection

end Bytes
end SeedCoverage.Sql

import SeedCoverage.Proofs.Reading.Balanced
import SeedCoverage.Sql.Search

/-! Where the steps of a reading stand. A step parts the text in two, and what is read of the part
before it leaves open just what the step finds open. -/
namespace SeedCoverage.Sql

open Text

variable {delimiter : Option Char} {state : State} {previous : Option Char} {text : Text} {step : Step}

theorem Lexeme.at_none_of_single {c d : Char}
    (single : Lexeme.at delimiter state c (some d) ≠ .quotePair) :
    Lexeme.at delimiter state c none = Lexeme.at delimiter state c (some d) := by
  unfold Lexeme.at at single ⊢
  split
  · rfl
  · rename_i uncut
    rw [if_neg uncut] at single
    split at single
    · exact absurd rfl single
    · rename_i pairless
      rw [if_neg pairless, if_neg (by simp)]

/-- A step parts the text, and the part before it is read up to the state of the step and ends with the
character before it. -/
private theorem exists_before (member : step ∈ scan delimiter state previous text) :
    ∃ front, text = front ++ step.ahead ∧ state.afterText delimiter front = step.state ∧
      lastChar previous front = step.previous := by
  fun_induction scan delimiter state previous text with
  | case1 => cases member
  | case2 state previous c =>
    obtain rfl := List.mem_singleton.mp member
    refine ⟨[], ?_, rfl, rfl⟩
    rw [Step.ahead, Lexeme.text_at Lexeme.at_none_ne_pair]
    rfl
  | case3 state previous c d rest pair ih =>
    obtain ⟨rfl, rfl⟩ := Lexeme.eq_quotes_of_pair pair
    rcases List.mem_cons.mp member with rfl | later
    · exact ⟨[], rfl, rfl, rfl⟩
    · obtain ⟨front, parts, ends, last⟩ := ih later
      refine ⟨'\'' :: '\'' :: front, ?_, ?_, ?_⟩
      · rw [List.cons_append, List.cons_append, ← parts]
      · rw [afterText_pair pair, ends]
      · rw [lastChar_cons, lastChar_cons, last]
  | case4 state previous c d rest single ih =>
    rcases List.mem_cons.mp member with rfl | later
    · refine ⟨[], ?_, rfl, rfl⟩
      rw [Step.ahead, Lexeme.text_at single]
      rfl
    · obtain ⟨front, parts, ends, last⟩ := ih later
      have same : Lexeme.at delimiter state c front.head? = Lexeme.at delimiter state c (some d) := by
        cases front with
        | nil => exact Lexeme.at_none_of_single single
        | cons e more =>
          obtain rfl := (List.cons.inj parts).1
          rfl
      refine ⟨c :: front, ?_, ?_, ?_⟩
      · rw [List.cons_append, ← parts]
      · rw [afterText_cons (same ▸ single), same, ends]
      · rw [lastChar_cons, last]

private theorem before_append_self (front : Text) : step.before (front ++ step.ahead) = front := by
  rw [Step.before, List.length_append, Nat.add_sub_cancel, List.take_left]

theorem before_append_ahead (member : step ∈ scan delimiter state previous text) :
    step.before text ++ step.ahead = text := by
  obtain ⟨front, rfl, _⟩ := exists_before member
  rw [before_append_self]

theorem afterText_before (member : step ∈ scan delimiter state previous text) :
    state.afterText delimiter (step.before text) = step.state := by
  obtain ⟨front, rfl, ends, _⟩ := exists_before member
  rw [before_append_self, ends]

theorem lastChar_before (member : step ∈ scan delimiter state previous text) :
    lastChar previous (step.before text) = step.previous := by
  obtain ⟨front, rfl, _, last⟩ := exists_before member
  rw [before_append_self, last]

/-- A place that a search finds is a cut of the text in three. -/
theorem findStep_whole {accept : Step → Option Nat} {place : Found}
    (found : findStep accept previous text = some place) :
    place.before ++ (place.found ++ place.after) = text := by
  obtain ⟨step, member, size, _, rfl⟩ := findStep_some found
  rw [List.take_append_drop, before_append_ahead member]

/-- The end of a statement is a semicolon, and what is read before it leaves nothing open. -/
theorem findStatementEnd_spec {place : Found} (ends : findStatementEnd text = some place) :
    place.found = [';'] ∧ State.start.afterText none place.before = .start := by
  obtain ⟨step, member, size, accepted, rfl⟩ := findStep_some ends
  unfold Step.semicolonSize? at accepted
  split at accepted
  · rename_i here
    obtain ⟨top, semicolon⟩ := Bool.and_eq_true_iff.mp here
    obtain rfl : 1 = size := Option.some.inj accepted
    have lexeme : step.lexeme = .char ';' := beq_iff_eq.mp semicolon
    constructor
    · rw [Step.ahead, lexeme]
      rfl
    · rw [afterText_before member]
      exact (State.atTop_iff _).mp top
  · cases accepted

theorem findStatementEnd_eq_none :
    findStatementEnd text = none ↔
      ∀ step ∈ steps text, ¬(step.state.atTop = true ∧ step.lexeme = .char ';') := by
  rw [findStatementEnd, findStep, findFrom_eq, List.findSome?_eq_none_iff, steps]
  refine forall₂_congr fun step _ => ?_
  simp [Step.cut?, Step.semicolonSize?, Step.isChar]

end SeedCoverage.Sql

import SeedCoverage.Proofs.Bytes.Cut
import SeedCoverage.Proofs.Reading.Place

/-! Reading SQL text byte by byte. The bytes of a character outside ASCII are read one by one and
change nothing, so that everything else is read at the same offsets in the same states. -/
namespace SeedCoverage.Sql

open Text

section High

variable {c : Char}

theorem ascii_none : ∀ sign ∈ (none : Option Char), isAsciiChar sign = true := by simp

theorem Lexeme.at_high {delimiter : Option Char} (signs : ∀ sign ∈ delimiter, isAsciiChar sign = true)
    (state : State) (high : isAsciiChar c = false) (next : Option Char) :
    Lexeme.at delimiter state c next = .char c := by
  have uncut : (delimiter == some c) = false := by
    refine beq_eq_false_iff_ne.mpr ?_
    rintro rfl
    rw [signs c rfl] at high
    cases high
  have plain : (c == '\'') = false := beq_eq_false_iff_ne.mpr (ne_of_high high rfl)
  simp only [Lexeme.at, uncut, plain, Bool.and_false, Bool.false_and, Bool.false_eq_true, ↓reduceIte]

theorem State.read_high (state : State) (high : isAsciiChar c = false) : state.read c = state := by
  have other (d : Char) (ascii : isAsciiChar d = true) : c ≠ d := ne_of_high high ascii
  rcases state with ⟨quote, parens, brackets⟩
  cases quote <;> simp (disch := decide) [State.read, Quote.read, other]

/-- Whether what is behind is half of a pair shows in its first byte. -/
theorem Lexeme.at_octets (delimiter : Option Char) (state : State) (c : Char) (rest : Text) :
    Lexeme.at delimiter state c (octets rest).head? = Lexeme.at delimiter state c rest.head? := by
  have half (next : Option Char) : (next == some '\'') = next.any (· == '\'') := by
    cases next <;> rfl
  have quote : Bytewise (· == '\'') :=
    .of_high false fun c high => beq_eq_false_iff_ne.mpr (ne_of_high high rfl)
  simp only [Lexeme.at, half, quote.head?_octets]

end High

namespace Bytes

/-- A step of a reading at its offset. -/
structure Point where
  offset : Nat
  state : State
  lexeme : Lexeme
  deriving DecidableEq, Repr

namespace Point

def isChar (c : Char) (point : Point) : Bool := point.lexeme == .char c

/-- The state behind the step. -/
def next (point : Point) : State := point.state.after point.lexeme

/-- All but a single character outside ASCII. -/
def inAscii (point : Point) : Bool :=
  match point.lexeme with
  | .char c => isAsciiChar c
  | _ => true

end Point

/-- The steps of a run at their offsets, each as far from the last as what that one read is long. -/
def points (size : Text → Nat) (offset : Nat) : List Step → List Point
  | [] => []
  | step :: rest =>
    ⟨offset, step.state, step.lexeme⟩ :: points size (offset + size step.lexeme.text) rest

/-- The steps of a fresh reading of the bytes from an offset on. -/
def reading (delimiter : Option Char) (text : Text) (start : Nat) : List Point :=
  points List.length start (scan delimiter .start none ((octets text).drop start))

variable {delimiter : Option Char} {size : Text → Nat} {offset : Nat} {state : State}
  {previous : Option Char} {text run : Text} {c : Char}

theorem Point.inAscii_of_isChar {point : Point} (ascii : isAsciiChar c = true)
    (char : point.isChar c = true) : point.inAscii = true := by
  have lexeme : point.lexeme = .char c := beq_iff_eq.mp char
  rw [inAscii, lexeme]
  exact ascii

theorem Point.not_inAscii (high : isAsciiChar c = false) :
    ¬(Point.mk offset state (.char c)).inAscii = true := by
  simp [inAscii, high]

private theorem filter_cons_congr {point : Point} {left right : List Point}
    (same : left.filter Point.inAscii = right.filter Point.inAscii) :
    (point :: left).filter Point.inAscii = (point :: right).filter Point.inAscii := by
  rw [List.filter_cons, List.filter_cons, same]

theorem points_previous (other : Option Char) :
    points size offset (scan delimiter state previous text) =
      points size offset (scan delimiter state other text) := by
  fun_cases scan delimiter state previous text with
  | case1 => rfl
  | case2 c => rfl
  | case3 c d rest pair =>
    obtain ⟨rfl, rfl⟩ := Lexeme.eq_quotes_of_pair pair
    rw [scan_pair pair]
    rfl
  | case4 c d rest single =>
    have single : Lexeme.at delimiter state c (d :: rest).head? ≠ .quotePair := single
    rw [scan_cons single]
    rfl

theorem points_eq_map (additive : ∀ left right, size (left ++ right) = size left + size right) :
    points size offset (scan delimiter state previous text) =
      (scan delimiter state previous text).map fun step =>
        ⟨offset + size (step.before text), step.state, step.lexeme⟩ := by
  have nothing : size [] = 0 := by simpa using additive [] []
  have shifted {text : Text} {offset : Nat} {run : List Step} (lead : Text)
      (fits : ∀ step ∈ run, step.ahead.length ≤ text.length) :
      run.map (fun step => Point.mk (offset + size lead + size (step.before text)) step.state
          step.lexeme) =
        run.map fun step => ⟨offset + size (step.before (lead ++ text)), step.state, step.lexeme⟩ :=
    List.map_congr_left fun step member => by
      rw [Step.before_append (fits step member), additive, Nat.add_assoc]
  fun_induction scan delimiter state previous text generalizing offset with
  | case1 => rfl
  | case2 state previous c =>
    have one : (Lexeme.at delimiter state c none).text = [c] :=
      Lexeme.text_at Lexeme.at_none_ne_pair
    simp [points, Step.before, Step.ahead, one, nothing]
  | case3 state previous c d rest pair ih =>
    obtain ⟨rfl, rfl⟩ := Lexeme.eq_quotes_of_pair pair
    have first : offset = offset + size (Step.before ('\'' :: '\'' :: rest)
        ⟨state, previous, .quotePair, rest⟩) := by
      simp [Step.before, Step.ahead, Lexeme.text, nothing]
    refine List.cons_eq_cons.mpr ⟨congrArg (Point.mk · _ _) first, ih.trans ?_⟩
    exact shifted ['\'', '\''] fun step member => ahead_of_mem_scan member
  | case4 state previous c d rest single ih =>
    have one := Lexeme.text_at single
    have first : offset = offset + size (Step.before (c :: d :: rest)
        ⟨state, previous, Lexeme.at delimiter state c (some d), d :: rest⟩) := by
      simp [Step.before, Step.ahead, one, nothing]
    refine List.cons_eq_cons.mpr ⟨congrArg (Point.mk · _ _) first, ih.trans ?_⟩
    simp only [one]
    exact shifted [c] fun step member => ahead_of_mem_scan member

theorem points_high (signs : ∀ sign ∈ delimiter, isAsciiChar sign = true)
    (high : ∀ byte ∈ run, isAsciiChar byte = false) (offset : Nat) (state : State)
    (previous : Option Char) (rest : Text) :
    (points List.length offset (scan delimiter state previous (run ++ rest))).filter Point.inAscii =
      (points List.length (offset + run.length) (scan delimiter state none rest)).filter
        Point.inAscii := by
  induction run generalizing offset previous with
  | nil => rw [List.nil_append, points_previous none]; rfl
  | cons byte run ih =>
    have other := high byte (by simp)
    have lexeme := Lexeme.at_high signs state other (run ++ rest).head?
    have single : Lexeme.at delimiter state byte (run ++ rest).head? ≠ .quotePair := by
      rw [lexeme]
      exact Lexeme.noConfusion
    have still : state.after (.char byte) = state := state.read_high other
    have later := ih (fun d member => high d (by simp [member])) (offset + 1) (some byte)
    rw [List.cons_append, scan_cons single, lexeme, still, points,
      List.filter_cons_of_neg (Point.not_inAscii other)]
    rw [List.length_cons, Nat.add_comm run.length 1, ← Nat.add_assoc]
    exact later

/-- Of a text and of its bytes the same steps are read in ASCII, at the same offsets. -/
theorem points_octets (signs : ∀ sign ∈ delimiter, isAsciiChar sign = true) (state : State)
    (previous : Option Char) (offset : Nat) (text : Text) :
    (points List.length offset (scan delimiter state none (octets text))).filter Point.inAscii =
      (points byteSize offset (scan delimiter state previous text)).filter Point.inAscii := by
  fun_induction scan delimiter state previous text generalizing offset with
  | case1 => rfl
  | case2 state previous c =>
    cases ascii : isAsciiChar c with
    | true => rw [octets_of_ascii ascii]; rfl
    | false =>
      have lexeme := Lexeme.at_high signs state ascii none
      have passed := points_high signs (high_of_mem_octets ascii) offset state none []
      rw [List.append_nil] at passed
      rw [passed, lexeme, points, List.filter_cons_of_neg (Point.not_inAscii ascii)]
      rfl
  | case3 state previous c d rest pair ih =>
    obtain ⟨rfl, rfl⟩ := Lexeme.eq_quotes_of_pair pair
    have bytes : octets ('\'' :: '\'' :: rest) = '\'' :: '\'' :: octets rest := by
      rw [octets_ascii_cons rfl, octets_ascii_cons rfl]
    rw [bytes, scan_pair pair, points, points, points_previous none]
    exact filter_cons_congr (ih (offset + 2))
  | case4 state previous c d rest single ih =>
    cases ascii : isAsciiChar c with
    | true =>
      have same := Lexeme.at_octets delimiter state c (d :: rest)
      have apart : Lexeme.at delimiter state c (octets (d :: rest)).head? ≠ .quotePair := by
        rw [same]
        exact single
      have one := Lexeme.text_at single
      have size := byteSize_singleton ascii
      have later := ih (offset + 1)
      rw [octets_ascii_cons ascii, scan_cons apart, same, points, points, points_previous none]
      simp only [one, size, List.head?_cons] at later ⊢
      exact filter_cons_congr later
    | false =>
      have lexeme := Lexeme.at_high signs state ascii (some d)
      have still : state.after (.char c) = state := state.read_high ascii
      have later := ih (offset + (octets [c]).length)
      rw [lexeme, still, length_octets] at later
      rw [octets_cons, points_high signs (high_of_mem_octets ascii), length_octets, later, lexeme,
        points, List.filter_cons_of_neg (Point.not_inAscii ascii), still]
      rfl

end Bytes
end SeedCoverage.Sql

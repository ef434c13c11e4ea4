import SeedCoverage.Proofs.Split.Cells
import SeedCoverage.Sql.Insert

/-! Values as they are written: NULL, or a string literal. Each is a cell, it is present just where
its content is not blank, and it is never taken for the target of a conflict. -/
namespace SeedCoverage.Sql

open Text

/-- A string or nothing, in writing. -/
def renderValue : Option Text → Text
  | none => "NULL"
  | some content => quote content

/-- A quote closes a literal unless another one follows it. -/
theorem unescape?_escape (content : Text) {after : Text} (closed : after.head? ≠ some '\'') :
    unescape? (escape content ++ '\'' :: after) = some (content, after) := by
  induction content with
  | nil =>
    cases after with
    | nil => rfl
    | cons d rest =>
      have other : d ≠ '\'' := by simpa using closed
      simp [escape, unescape?, other]
  | cons c content ih =>
    rw [escape_cons]
    split
    · subst c
      simp [unescape?, ih]
    · rename_i plain
      obtain ⟨d, rest, whole⟩ : ∃ d rest, escape content ++ '\'' :: after = d :: rest :=
        List.exists_cons_of_ne_nil (by simp)
      rw [whole] at ih
      simp [whole, unescape?, plain, ih]

theorem quote_trimmed (content : Text) : Trimmed (quote content) := by
  refine ⟨fun c member => ?_, fun c member => ?_⟩
  · obtain rfl : '\'' = c := Option.some.inj member
    decide
  · rw [quote, List.getLast?_concat] at member
    obtain rfl : '\'' = c := Option.some.inj member
    decide

theorem renderValue_trimmed (value : Option Text) : Trimmed (renderValue value) := by
  cases value with
  | none => exact ⟨by decide, by decide⟩
  | some content => exact quote_trimmed content

theorem literalContent?_quote (content : Text) : literalContent? (quote content) = some content := by
  have literal : trim (quote content) = '\'' :: (escape content ++ ['\'']) :=
    (quote_trimmed content).trim_eq
  have closed : unescape? (escape content ++ ['\'']) = some (content, []) :=
    unescape?_escape content (by simp)
  rw [literalContent?, literal]
  simp [closed, trimStart]

theorem same_marked_eq_false (rest : Text) {word : Text}
    (unquoted : ∀ c ∈ word.head?, c.toLower ≠ '\'') : same ('\'' :: rest) word = false := by
  refine Bool.eq_false_iff.mpr fun equal => ?_
  have folded : lower ('\'' :: rest) = lower word := beq_iff_eq.mp equal
  cases word with
  | nil => simp [lower] at folded
  | cons c letters =>
    have first : '\''.toLower = c.toLower := by
      simpa [lower] using congrArg List.head? folded
    exact unquoted c rfl first.symm

/-- A token that begins with a quote is present unless it is a literal of blank content. -/
theorem isPresent_marked (rest : Text) :
    isPresent ('\'' :: rest) =
      (literalContent? ('\'' :: rest)).all fun content => !blank content := by
  have mark : isBlank '\'' = false := by decide
  have filled : blank ('\'' :: rest) = false := by simp [blank, mark]
  have word : isNull ('\'' :: rest) = false := by
    rw [isNull, trim_filled mark]
    exact same_marked_eq_false _ (by decide)
  rw [isPresent, filled, word]
  cases literalContent? ('\'' :: rest) <;> rfl

theorem isPresent_renderValue (value : Option Text) :
    isPresent (renderValue value) = value.any fun content => !blank content := by
  cases value with
  | none => decide
  | some content =>
    refine (isPresent_marked (escape content ++ ['\''])).trans ?_
    exact congrArg (Option.all fun content => !blank content) (literalContent?_quote content)

theorem isArtifact_renderValue (record : List (Option Text)) :
    isArtifact (record.map renderValue) = false := by
  cases record with
  | nil => rfl
  | cons value rest =>
    cases rest with
    | nil =>
      cases value with
      | none => decide
      | some content =>
        rw [List.map_cons, List.map_nil, isArtifact, (renderValue_trimmed _).trim_eq]
        exact same_marked_eq_false _ (by decide)
    | cons => rfl

theorem Reads.value {allowed : State → Lexeme → Prop} {state : State} (code : state.quote = .code)
    (word : ∀ c, isWordChar c = true → allowed state (.char c)) (mark : allowed state (.char '\''))
    (pair : allowed state .quotePair) (inside : ∀ lexeme, allowed state.string lexeme)
    (value : Option Text) : Reads allowed state (renderValue value) state := by
  cases value with
  | none =>
    have letters : ∀ c ∈ "NULL".toList, isWordChar c = true := by decide
    exact .chars code fun c member =>
      ⟨unmarked_of_wordChar (letters c member), word c (letters c member)⟩
  | some content => exact .quote code mark pair inside content

theorem Cell.of_value (value : Option Text) : Cell (renderValue value) where
  filled := by
    cases value with
    | none => decide
    | some content => simp [renderValue, quote]
  trimmed := renderValue_trimmed value
  reads := .value rfl (fun _ => inCell_of_wordChar) (by decide) (by decide)
    (fun lexeme => ⟨by simp [State.strays], by simp⟩) value

end SeedCoverage.Sql

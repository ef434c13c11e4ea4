import SeedCoverage.Proofs.Statement.Value
import SeedCoverage.Proofs.Text.Trim

/-! What is taken for a string literal, and what for a value. A token is a literal of some content just
where the content stands in quotes at its start and nothing but a cast follows. What stands behind the
marks of a cast is not looked at, so that an expression that begins with a cast literal is taken for that
literal. -/
namespace SeedCoverage.Sql

open Text

/-- Blanks, and then nothing, or the marks of a cast and whatever stands behind them. -/
def CastEnd (text : Text) : Prop :=
  ∃ blanks rest, text = blanks ++ rest ∧ (∀ c ∈ blanks, isBlank c = true) ∧
    (rest = [] ∨ [':', ':'] <+: rest)

/-- `content` in quotes, with every quote in it doubled, and an end that may be a cast. -/
def Spells (content text : Text) : Prop := ∃ tail, CastEnd tail ∧ text = quote content ++ tail

section Ends

variable {text : Text}

theorem castEnd_iff :
    CastEnd text ↔ ((trimStart text).isEmpty || (trimStart text).take 2 == [':', ':']) = true := by
  have marks : [':', ':'] <+: trimStart text ↔ (trimStart text).take 2 = [':', ':'] :=
    List.prefix_iff_eq_take.trans eq_comm
  rw [Bool.or_eq_true, List.isEmpty_iff, beq_iff_eq, ← marks]
  constructor
  · rintro ⟨blanks, rest, rfl, blank, ends⟩
    rw [trimStart, List.dropWhile_append_of_pos blank]
    rcases ends with rfl | cast
    · exact .inl rfl
    · refine .inr ?_
      obtain ⟨more, rfl⟩ := cast
      exact ⟨more, rfl⟩
  · intro ends
    refine ⟨text.takeWhile isBlank, trimStart text, ?_, fun c member => ?_, ends⟩
    · exact List.takeWhile_append_dropWhile.symm
    · exact (List.mem_takeWhile_imp member :)

theorem CastEnd.head_ne_quote (ends : CastEnd text) : text.head? ≠ some '\'' := by
  obtain ⟨blanks, rest, rfl, blank, ends⟩ := ends
  cases blanks with
  | nil =>
    rcases ends with rfl | ⟨more, rfl⟩
    · simp
    · simp
  | cons c blanks =>
    intro mark
    obtain rfl : c = '\'' := by simpa using mark
    exact absurd (blank '\'' List.mem_cons_self) (by decide)

theorem castEnd_trimEnd : CastEnd (trimEnd text) ↔ CastEnd text := by
  constructor
  · obtain ⟨tail, whole, blank⟩ := exists_trimEnd text
    rintro ⟨blanks, rest, front, blank', ends⟩
    rw [whole, front, List.append_assoc]
    rcases ends with rfl | cast
    · refine ⟨blanks ++ tail, [], by simp, fun c member => ?_, .inl rfl⟩
      exact (List.mem_append.mp member).elim (blank' c) (blank c)
    · exact ⟨blanks, rest ++ tail, rfl, blank', .inr (cast.trans (List.prefix_append rest tail))⟩
  · rintro ⟨blanks, rest, rfl, blank, ends⟩
    rcases ends with rfl | ⟨more, rfl⟩
    · have none : trimEnd (blanks ++ []) = [] := by
        simpa [trimEnd, dropEndWhile] using blank
      exact ⟨[], [], none, by simp, .inl rfl⟩
    · have kept : trimEnd (blanks ++ ([':', ':'] ++ more)) =
          blanks ++ ([':', ':'] ++ trimEnd more) := by
        simp [trimEnd, dropEndWhile_append_cons, dropEndWhile_cons, isBlank]
      exact ⟨blanks, _, kept, blank, .inr (List.prefix_append _ _)⟩

end Ends

private theorem unescape?_parts {text content tail : Text}
    (read : unescape? text = some (content, tail)) :
    text = escape content ++ '\'' :: tail ∧ tail.head? ≠ some '\'' := by
  fun_induction unescape? text generalizing content tail with
  | case1 => cases read
  | case2 =>
    cases read
    simp [escape]
  | case3 => cases read
  | case4 rest ih =>
    obtain ⟨⟨inner, behind⟩, found, same⟩ := Option.map_eq_some_iff.mp read
    cases same
    obtain ⟨whole, closed⟩ := ih found
    refine ⟨?_, closed⟩
    rw [escape_cons, whole]
    simp
  | case5 d rest other =>
    cases read
    simpa [escape] using other
  | case6 c d rest plain ih =>
    obtain ⟨⟨inner, behind⟩, found, same⟩ := Option.map_eq_some_iff.mp read
    cases same
    obtain ⟨whole, closed⟩ := ih found
    refine ⟨?_, closed⟩
    rw [escape_cons, if_neg plain, whole]
    rfl

/-- A literal goes up to the first quote that no other one follows. -/
theorem unescape?_eq_some_iff {text content tail : Text} :
    unescape? text = some (content, tail) ↔
      text = escape content ++ '\'' :: tail ∧ tail.head? ≠ some '\'' := by
  constructor
  · exact unescape?_parts
  · rintro ⟨rfl, closed⟩
    exact unescape?_escape content closed

/-- What is spelled is what is read behind the first quote, up to an end. -/
theorem spells_iff {content text : Text} :
    Spells content text ↔
      ∃ body tail, text = '\'' :: body ∧ unescape? body = some (content, tail) ∧ CastEnd tail := by
  have quoted (tail : Text) : quote content ++ tail = '\'' :: (escape content ++ '\'' :: tail) := by
    simp [quote]
  constructor
  · rintro ⟨tail, ends, rfl⟩
    have read := unescape?_escape content ends.head_ne_quote
    exact ⟨_, tail, quoted tail, read, ends⟩
  · rintro ⟨body, tail, rfl, read, ends⟩
    obtain ⟨rfl, _⟩ := unescape?_eq_some_iff.mp read
    exact ⟨tail, ends, (quoted tail).symm⟩

theorem Spells.unique {content other text : Text} (spells : Spells content text)
    (spells' : Spells other text) : content = other := by
  obtain ⟨body, tail, rfl, read, _⟩ := spells_iff.mp spells
  obtain ⟨_, _, same, read', _⟩ := spells_iff.mp spells'
  cases same
  rw [read] at read'
  cases read'
  rfl

theorem literalContent?_eq_some_iff {token content : Text} :
    literalContent? token = some content ↔ Spells content (trim token) := by
  rw [spells_iff, literalContent?]
  split
  · rename_i body trimmed
    rw [trimmed]
    constructor
    · intro found
      obtain ⟨⟨inner, tail⟩, read, kept⟩ := Option.bind_eq_some_iff.mp found
      obtain ⟨cast, same⟩ := Option.ite_none_right_eq_some.mp kept
      cases same
      exact ⟨body, tail, rfl, read, castEnd_iff.mpr cast⟩
    · rintro ⟨_, tail, same, read, ends⟩
      cases same
      exact Option.bind_eq_some_iff.mpr ⟨(content, tail), read, if_pos (castEnd_iff.mp ends)⟩
  · rename_i plain
    refine iff_of_false (by simp) ?_
    rintro ⟨body, _, quoted, _⟩
    exact plain body quoted

/-- A value is absent if it is blank, NULL, or a literal of blank content. -/
theorem isPresent_eq_false_iff {token : Text} :
    isPresent token = false ↔
      blank token = true ∨ isNull token = true ∨
        ∃ content, literalContent? token = some content ∧ blank content = true := by
  rw [isPresent]
  by_cases nothing : blank token = true
  · simp [nothing]
  · by_cases null : isNull token = true
    · simp [null]
    · cases found : literalContent? token with
      | none => simp [nothing, null]
      | some content => simp [nothing, null]

/-- A token has just the content that it spells once it is trimmed. Every text is the content of what it
is written as, and of no other spelling than its own. A value is absent just where it is blank, NULL in
any case, or a literal of blank content. -/
theorem literal_grammar (token : Text) :
    (∀ content, literalContent? token = some content ↔ Spells content (trim token)) ∧
    (∀ content, literalContent? (quote content) = some content) ∧
    (∀ content other text, Spells content text → Spells other text → content = other) ∧
    (isPresent token = false ↔
      blank token = true ∨ same (trim token) "null" = true ∨
        ∃ content, literalContent? token = some content ∧ blank content = true) :=
  ⟨fun _ => literalContent?_eq_some_iff, literalContent?_quote, fun _ _ _ => Spells.unique,
    isPresent_eq_false_iff⟩

section Behind

variable {content tail : Text}

/-- Behind its closing quote, a literal spells its content and nothing else, if that is an end. -/
theorem spells_quote_append {other : Text} (closed : tail.head? ≠ some '\'') :
    Spells other (quote content ++ tail) ↔ other = content ∧ CastEnd tail := by
  constructor
  · intro spells
    obtain ⟨body, rest, whole, read, ends⟩ := spells_iff.mp spells
    have same : escape content ++ '\'' :: tail = body := by simpa [quote] using whole
    rw [← same, unescape?_escape content closed] at read
    cases read
    exact ⟨rfl, ends⟩
  · rintro ⟨rfl, ends⟩
    exact ⟨tail, ends, rfl⟩

/-- A token that begins with a literal is that literal or none. -/
theorem literalContent?_quote_append (closed : tail.head? ≠ some '\'') {other : Text} :
    literalContent? (quote content ++ tail) = some other ↔ other = content ∧ CastEnd tail := by
  have some_quote : quote content ≠ [] := by simp [quote]
  rw [literalContent?_eq_some_iff, (quote_trimmed content).trim_append some_quote,
    spells_quote_append (mt head?_trimEnd closed), castEnd_trimEnd]

theorem isPresent_quote_append :
    isPresent (quote content ++ tail) =
      (literalContent? (quote content ++ tail)).all fun other => !blank other :=
  isPresent_marked (escape content ++ ['\''] ++ tail)

end Behind

/-- What is added behind a cast is not seen: the token is still taken for the literal, and counts as
present just where the content of that is not blank. Behind the literal itself it is seen, and the token
is present whatever the content is. -/
theorem concatenation_behind_cast (content type operand : Text) :
    literalContent? (quote content ++ "::" ++ type ++ " || " ++ operand) = some content ∧
    (isPresent (quote content ++ "::" ++ type ++ " || " ++ operand) = true ↔
      blank content = false) ∧
    literalContent? (quote content ++ " || " ++ operand) = none ∧
    isPresent (quote content ++ " || " ++ operand) = true := by
  simp only [List.append_assoc]
  have marks : CastEnd ("::" ++ (type ++ (" || " ++ operand))) :=
    ⟨[], _, rfl, by simp, .inr (List.prefix_append _ _)⟩
  have cast : literalContent? (quote content ++ ("::" ++ (type ++ (" || " ++ operand)))) =
      some content :=
    (literalContent?_quote_append (by simp)).mpr ⟨rfl, marks⟩
  have plain : literalContent? (quote content ++ (" || " ++ operand)) = none := by
    refine Option.eq_none_iff_forall_ne_some.mpr fun other found => ?_
    rw [literalContent?_quote_append (by simp), castEnd_iff] at found
    simp [trimStart, isBlank] at found
  refine ⟨cast, ?_, plain, ?_⟩
  · rw [isPresent_quote_append, cast]
    simp
  · rw [isPresent_quote_append, plain]
    rfl

/-- A blank literal with a cast hides the string that is added to it. -/
theorem concatenation_hidden_by_cast :
    literalContent? (quote "" ++ "::" ++ "text" ++ " || " ++ quote "x") = some [] ∧
      isPresent (quote "" ++ "::" ++ "text" ++ " || " ++ quote "x") = false ∧
        isPresent (quote "" ++ " || " ++ quote "x") = true := by
  decide

end SeedCoverage.Sql

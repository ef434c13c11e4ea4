import SeedCoverage.Proofs.Script.Strip
import SeedCoverage.Proofs.Text.Includes
import SeedCoverage.Sql.Insert

/-! Comments are whitespace. Behind a text that leaves no quote and no comment open, a block comment
reads as one space and a line comment as nothing, whatever they hold. -/
namespace SeedCoverage.Sql

open Text

variable {left right comment : Text}

theorem stripFrom_blockComment (closeless : ¬['*', '/'] <:+: comment) (right : Text) :
    stripFrom .blockComment (comment ++ '*' :: '/' :: right) = stripFrom (.sql .code) right := by
  induction comment with
  | nil => simp [stripFrom]
  | cons c rest ih =>
    have later := ih fun inside => closeless (inside.trans (List.suffix_cons c rest).isInfix)
    cases rest with
    | nil =>
      rw [List.nil_append] at later
      have other : ¬(c = '*' ∧ '*' = '/') := fun both => absurd both.2 (by decide)
      rw [List.cons_append, List.nil_append, stripFrom, if_neg other, later]
    | cons d more =>
      have other : ¬(c = '*' ∧ d = '/') := by
        rintro ⟨rfl, rfl⟩
        exact closeless (List.prefix_append ['*', '/'] more).isInfix
      rw [List.cons_append, List.cons_append, stripFrom, if_neg other]
      exact later

theorem stripFrom_lineComment (single : '\n' ∉ comment) (right : Text) :
    stripFrom .lineComment (comment ++ '\n' :: right) = '\n' :: stripFrom (.sql .code) right := by
  induction comment with
  | nil => exact stripFrom_newline (.inr rfl) right
  | cons c rest ih =>
    obtain ⟨other, absent⟩ := List.ne_and_not_mem_of_not_mem_cons single
    obtain ⟨d, more, next⟩ := List.exists_cons_of_ne_nil (l := rest ++ '\n' :: right) (by simp)
    have later := ih absent
    rw [next] at later
    rw [List.cons_append, next, stripFrom, if_neg other.symm, later]

/-- What stands behind a text that leaves nothing open is stripped by itself. -/
theorem stripComments_append_code (ends : (Region.sql .code).after left = .sql .code)
    (parted : Parted left right) :
    stripComments (left ++ right) = stripComments left ++ stripComments right := by
  rw [stripComments, stripFrom_append_parted parted (by simp [ends]), ends]
  rfl

theorem stripComments_block (ends : (Region.sql .code).after left = .sql .code)
    (closeless : ¬['*', '/'] <:+: comment) (right : Text) :
    stripComments (left ++ '/' :: '*' :: (comment ++ '*' :: '/' :: right)) =
      stripComments (left ++ ' ' :: right) := by
  have space : stripComments (' ' :: right) = ' ' :: stripComments right := by
    cases right <;> simp [stripComments, stripFrom, Quote.read]
  have block : stripComments ('/' :: '*' :: (comment ++ '*' :: '/' :: right)) =
      ' ' :: stripComments right := by
    rw [stripComments, stripFrom, if_neg (by simp), if_pos (by simp),
      stripFrom_blockComment closeless]
    rfl
  rw [stripComments_append_code ends (.of_plain (by decide) _ _), block,
    stripComments_append_code ends (.of_plain (by decide) _ _), space]

theorem stripComments_line (ends : (Region.sql .code).after left = .sql .code)
    (dashless : left.getLast? ≠ some '-') (single : '\n' ∉ comment) (right : Text) :
    stripComments (left ++ '-' :: '-' :: (comment ++ '\n' :: right)) =
      stripComments (left ++ '\n' :: right) := by
  have parted : Parted left ('-' :: '-' :: (comment ++ '\n' :: right)) := by
    intro first last second head fuse
    obtain rfl : '-' = second := Option.some.inj head
    rcases fuse with ⟨rfl, _⟩ | ⟨_, star⟩ | ⟨_, quote⟩
    · exact dashless last
    · exact absurd star (by decide)
    · exact absurd quote (by decide)
  have line : stripComments ('-' :: '-' :: (comment ++ '\n' :: right)) =
      '\n' :: stripComments right := by
    have dash : '\n' ∉ '-' :: comment := by simp [single]
    rw [stripComments, stripFrom, if_pos (by simp)]
    exact stripFrom_lineComment dash right
  have feed : stripComments ('\n' :: right) = '\n' :: stripComments right :=
    stripFrom_newline (.inl rfl) right
  rw [stripComments_append_code ends parted, line,
    stripComments_append_code ends (.of_plain (by decide) _ _), feed]

/-- Behind a text that leaves no quote and no comment open, a comment changes nothing that whitespace in
its place would not change: neither what is left of the text nor what its statements say. -/
theorem comment_whitespace (ends : (Region.sql .code).after left = .sql .code) (right : Text) :
    (∀ comment, ¬['*', '/'] <:+: comment →
      let commented := left ++ "/*".toList ++ comment ++ "*/".toList ++ right
      let blank := left ++ ' ' :: right
      stripComments commented = stripComments blank ∧
        ∀ catalog hint, readScript catalog hint commented = readScript catalog hint blank) ∧
    (left.getLast? ≠ some '-' → ∀ comment, '\n' ∉ comment →
      let commented := left ++ "--".toList ++ comment ++ '\n' :: right
      let blank := left ++ '\n' :: right
      stripComments commented = stripComments blank ∧
        ∀ catalog hint, readScript catalog hint commented = readScript catalog hint blank) := by
  constructor
  · intro comment closeless commented blank
    have same : stripComments commented = stripComments blank := by
      have stripped := stripComments_block ends closeless right
      simpa [commented, blank] using stripped
    exact ⟨same, fun catalog hint => by rw [readScript, same, readScript]⟩
  · intro dashless comment single commented blank
    have same : stripComments commented = stripComments blank := by
      have stripped := stripComments_line ends dashless single right
      simpa [commented, blank] using stripped
    exact ⟨same, fun catalog hint => by rw [readScript, same, readScript]⟩

/-- Comments that hold a statement, an open quote and half of an end, behind half of a mark. -/
theorem comment_whitespace_statement :
    let left : Text := "SELECT 'it''s' /"
    let block : Text := "/'; INSERT INTO items (name) VALUES ('x'); /* *"
    let line : Text := "' /* ; INSERT INTO items (name) VALUES ('x');"
    let right : Text := "INSERT INTO items (name) VALUES ('a--b');"
    (Region.sql .code).after left = .sql .code ∧ ¬['*', '/'] <:+: block ∧
      left.getLast? ≠ some '-' ∧ '\n' ∉ line ∧
      readScript .builtin none (left ++ "/*".toList ++ block ++ "*/".toList ++ right) =
        readScript .builtin none (left ++ ' ' :: right) ∧
      readScript .builtin none (left ++ "--".toList ++ line ++ '\n' :: right) =
        readScript .builtin none (left ++ '\n' :: right) := by
  intro left block line right
  have ends : (Region.sql .code).after left = .sql .code := by decide +kernel
  have closeless : ¬['*', '/'] <:+: block := mt includes_iff.mpr (by decide +kernel)
  have dashless : left.getLast? ≠ some '-' := by decide +kernel
  have single : '\n' ∉ line := by decide +kernel
  obtain ⟨blocks, lines⟩ := comment_whitespace ends right
  exact ⟨ends, closeless, dashless, single, (blocks block closeless).2 .builtin none,
    (lines dashless line single).2 .builtin none⟩

end SeedCoverage.Sql

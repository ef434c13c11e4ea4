import SeedCoverage.Proofs.Reading.Balanced
import SeedCoverage.Proofs.Text.Trim
import SeedCoverage.Catalog
import SeedCoverage.Sql.Search

/-! Identifiers hold no blank and no mark, so that they read as they are wherever they stand. -/
namespace SeedCoverage.Sql

open Text

/-- A character of an identifier. -/
def isWordChar (c : Char) : Bool := c.isAlphanum || c == '_'

theorem wordChar_of_mem {name : Text} (identifier : isIdentifier name = true) :
    ∀ c ∈ name, isWordChar c = true := by
  cases name with
  | nil => simp
  | cons first rest =>
    simp only [isIdentifier, Bool.and_eq_true, List.all_eq_true] at identifier
    intro c member
    rcases List.mem_cons.mp member with rfl | later
    · simp only [isWordChar, Char.isAlphanum, Bool.or_eq_true] at identifier ⊢
      exact identifier.1.imp_left .inl
    · exact identifier.2 c later

theorem ne_nil_of_identifier {name : Text} (identifier : isIdentifier name = true) : name ≠ [] := by
  rintro rfl
  simp [isIdentifier] at identifier

theorem isNameChar_of_wordChar {c : Char} (word : isWordChar c = true) : isNameChar c = true := by
  simp only [isWordChar, Bool.or_eq_true] at word
  rcases word with alphanumeric | underscore
  · simp [isNameChar, alphanumeric]
  · simp [isNameChar, underscore]

theorem ne_of_wordChar {c d : Char} (word : isWordChar c = true) (other : isWordChar d = false) :
    c ≠ d := by
  rintro rfl
  simp [word] at other

theorem unmarked_of_wordChar {c : Char} (word : isWordChar c = true) : isMark c = false := by
  have differs (d : Char) (other : isWordChar d = false) : (c == d) = false :=
    beq_eq_false_iff_ne.mpr (ne_of_wordChar word other)
  simp [isMark, differs '\'' (by decide), differs '"' (by decide), differs '(' (by decide),
    differs ')' (by decide), differs '[' (by decide), differs ']' (by decide)]

theorem toNat_of_wordChar {c : Char} (word : isWordChar c = true) :
    48 ≤ c.toNat ∧ c.toNat ≤ 122 := by
  delta isWordChar Char.isAlphanum Char.isAlpha Char.isUpper Char.isLower Char.isDigit at word
  simp only [Bool.or_eq_true, Bool.and_eq_true, decide_eq_true_eq, beq_iff_eq,
    UInt32.le_iff_toNat_le, ge_iff_le] at word
  change (((65 ≤ c.toNat ∧ c.toNat ≤ 90) ∨ (97 ≤ c.toNat ∧ c.toNat ≤ 122)) ∨
    (48 ≤ c.toNat ∧ c.toNat ≤ 57)) ∨ c = '_' at word
  rcases word with ((upper | lower) | digit) | rfl
  · omega
  · omega
  · omega
  · decide

theorem not_blank_of_wordChar {c : Char} (word : isWordChar c = true) : isBlank c = false := by
  have bounds := toNat_of_wordChar word
  simp only [isBlank, Bool.or_eq_false_iff, Bool.and_eq_false_iff, decide_eq_false_iff_not,
    beq_eq_false_iff_ne]
  omega

theorem trimmed_of_wordChars {text : Text} (word : ∀ c ∈ text, isWordChar c = true) :
    Trimmed text :=
  ⟨fun c member => not_blank_of_wordChar (word c (List.mem_of_mem_head? member)),
    fun c member => not_blank_of_wordChar (word c (List.mem_of_mem_getLast? member))⟩

end SeedCoverage.Sql

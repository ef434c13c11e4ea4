import SeedCoverage.Proofs.Script.Carving
import SeedCoverage.Proofs.Text.Case
import SeedCoverage.Sql.Insert

/-! The first words of a statement. Where a statement is read, any blanks may part them; where it is
looked for in a text, they must be parted by one space. -/
namespace SeedCoverage.Sql

open Text

variable {text : Text} {place ending : Found}

private theorem isAsciiBlank_of_letter {c letter : Char} (same : c.toLower = letter.toLower)
    (alpha : letter.isAlpha = true) : isAsciiBlank c = false := by
  apply Bool.eq_false_iff.mpr
  intro blank
  have steady : c.toLower = c ∧ c.isAlpha = false := by
    simp only [isAsciiBlank, Bool.or_eq_true, beq_iff_eq] at blank
    rcases blank with (((rfl | rfl) | rfl) | rfl) | rfl <;> exact ⟨rfl, rfl⟩
  obtain rfl := eq_of_toLower (same.symm.trans steady.1) steady.2
  exact Bool.false_ne_true (steady.2.symm.trans alpha)

theorem startsWith_append_iff {first second text : Text} :
    startsWith (first ++ second) text = true ↔
      startsWith first text = true ∧ startsWith second (text.drop first.length) = true := by
  have parts : text.take (first ++ second).length =
      text.take first.length ++ (text.drop first.length).take second.length := by
    rw [List.length_append, List.take_add]
  simp only [startsWith, same, beq_iff_eq, parts, lower, List.map_append]
  constructor
  · intro whole
    have sizes := congrArg List.length whole
    simp only [List.length_append, List.length_map, List.length_take, List.length_drop] at sizes
    apply List.append_inj whole
    simp only [List.length_map, List.length_take]
    omega
  · rintro ⟨front, back⟩
    rw [front, back]

theorem wordsSize?_space {first second : Text} (begins : second.head?.any Char.isAlpha = true)
    (starts : startsWith (first ++ ' ' :: second) text = true) :
    wordsSize? [first, second] text = some (first ++ ' ' :: second).length := by
  obtain ⟨front, later⟩ := startsWith_append_iff.mp starts
  cases gap : text.drop first.length with
  | nil => cases length_le_of_startsWith (gap ▸ later)
  | cons space rest =>
    rw [gap] at later
    obtain rfl : space = ' ' := eq_of_toLower (startsWith_cons later rfl) rfl
    have spaced : startsWith ([' '] ++ second) (' ' :: rest) = true := later
    have back : startsWith second rest = true := (startsWith_append_iff.mp spaced).2
    cases second with
    | nil => cases begins
    | cons letter letters =>
      cases rest with
      | nil => cases length_le_of_startsWith back
      | cons c more =>
        have filled : isAsciiBlank c = false :=
          isAsciiBlank_of_letter (startsWith_cons back rfl) (by simpa using begins)
        have blank : isAsciiBlank ' ' = true := rfl
        refine wordsSize?_cons_cons.mpr ⟨front, ?_, (letter :: letters).length, ?_, ?_⟩
        · simp [gap, blank]
        · simp [gap, blank, filled, wordsSize?, back]
        · simp only [gap, List.takeWhile_cons, blank, filled, List.length_append, List.length_cons]
          simp only [↓reduceIte, Bool.false_eq_true, List.length_cons, List.length_nil]
          omega

theorem phraseIn_start {phrase : Text} (found : phraseIn phrase text = some place)
    (first : place.before = []) :
    ∃ size, wordsSize? (words phrase) text = some size ∧ place.found = text.take size := by
  unfold phraseIn findPhrase at found
  split at found
  · cases found
  · obtain ⟨step, member, size, accepted, rfl⟩ := findStep_some found
    have front : step.before text = [] := first
    have whole : step.ahead = text := by
      have parts := before_append_ahead member
      rwa [front, List.nil_append] at parts
    unfold Step.phraseSize? at accepted
    split at accepted
    · unfold phraseSize? at accepted
      split at accepted
      · cases accepted
      · obtain ⟨measured, _⟩ := Option.filter_eq_some_iff.mp accepted
        exact ⟨size, whole ▸ measured, by rw [whole]⟩
    · cases accepted

/-- Where a statement is read from its first words on, the search for a statement takes them for such
just where they are written with one space. -/
theorem same_found_iff (found : phraseIn insertInto text = some place) (first : place.before = []) :
    same place.found insertInto = true ↔ startsWith insertInto text = true := by
  obtain ⟨size, measured, taken⟩ := phraseIn_start found first
  constructor
  · intro equal
    have sizes := congrArg List.length (beq_iff_eq.mp equal)
    rw [length_lower, length_lower] at sizes
    have front : text = place.found ++ text.drop size := by rw [taken, List.take_append_drop]
    rw [front, startsWith, ← sizes, List.take_left]
    exact equal
  · intro starts
    have spaced : wordsSize? ["insert", "into"] text = some insertInto.length :=
      wordsSize?_space rfl starts
    obtain rfl := Option.some.inj (spaced.symm.trans measured)
    rw [taken]
    exact starts

/-- A statement is among the statements of a text that it fills just where it begins the text. -/
private theorem statements_eq_singleton (ends : findStatementEnd text = some ending)
    (last : ending.after = []) : statements text = [text] ↔ startsWith insertInto text = true := by
  have whole := findStep_whole ends
  rw [last, List.append_nil] at whole
  constructor
  · intro single
    cases sought : seekInsert? text with
    | none =>
      rw [statements_absent sought] at single
      cases single
    | some found =>
      cases ended : findStatementEnd found with
      | none =>
        rw [statements_endless sought ended] at single
        cases single
      | some cut =>
        rw [statements_found sought ended] at single
        have statement : cut.before ++ cut.found = text := (List.cons.inj single).1
        have parts := congrArg List.length (findStep_whole ended)
        have size := congrArg List.length statement
        simp only [List.length_append] at parts size
        have equal : found = text := (seekInsert?_suffix sought).eq_of_length_le (by omega)
        exact equal ▸ seekInsert?_starts sought
  · intro starts
    rw [statements_found (seekInsert?_here starts) ends, last, statements_absent rfl, whole]

/-- A statement with its semicolon is found in the text that it fills just where one space parts its
first two words, though it is read with any blanks between them. -/
theorem statements_singleton_iff_space (begins : phraseIn insertInto text = some place)
    (first : place.before = []) (ends : findStatementEnd text = some ending)
    (last : ending.after = []) :
    statements text = [text] ↔ same place.found insertInto = true :=
  (statements_eq_singleton ends last).trans (same_found_iff begins first).symm

theorem statements_mixed_case :
    let text : Text := "INSERT into items (name) VALUES ('a;b');"
    phraseIn insertInto text = some ⟨[], "INSERT into", " items (name) VALUES ('a;b');"⟩ ∧
      findStatementEnd text = some ⟨"INSERT into items (name) VALUES ('a;b')", ";", []⟩ ∧
        statements text = [text] := by
  have begins : phraseIn insertInto "INSERT into items (name) VALUES ('a;b');" =
      some ⟨[], "INSERT into", " items (name) VALUES ('a;b');"⟩ := by decide +kernel
  have ends : findStatementEnd "INSERT into items (name) VALUES ('a;b');" =
      some ⟨"INSERT into items (name) VALUES ('a;b')", ";", []⟩ := by decide +kernel
  exact ⟨begins, ends, (statements_singleton_iff_space begins rfl ends rfl).mpr (by decide)⟩

/-- With two spaces a statement that is read is not found. -/
theorem statements_two_spaces :
    let text : Text := "INSERT  INTO items (name) VALUES ('Sword');"
    phraseIn insertInto text = some ⟨[], "INSERT  INTO", " items (name) VALUES ('Sword');"⟩ ∧
      findStatementEnd text = some ⟨"INSERT  INTO items (name) VALUES ('Sword')", ";", []⟩ ∧
        (readInsert .builtin none text).isOk = true ∧ statements text = [] := by
  decide +kernel

end SeedCoverage.Sql

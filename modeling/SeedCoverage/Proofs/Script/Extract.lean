import SeedCoverage.Proofs.Search.Phrase
import SeedCoverage.Sql.Statement

/-! Which statements a text holds. Behind a text whose last statement has its end, the next line is
looked at as if nothing stood before it. -/
namespace SeedCoverage.Sql

open Text

/-- The statement that a text breaks off in: an `insert into` without the semicolon that ends it. -/
def unfinished? (text : Text) : Option Text :=
  match begins : seekInsert? text with
  | none => none
  | some found =>
    match ends : findStatementEnd found with
    | none => some found
    | some place =>
      have : place.after.length < text.length :=
        Nat.lt_of_lt_of_le (findStatementEnd_after_length ends) (seekInsert?_length begins)
      unfinished? place.after
termination_by text.length

/-- No `insert into` begins in `gap`, with `ahead` behind it. -/
def Insertless (gap ahead : Text) : Prop :=
  ∀ back, back ≠ [] → back <:+ gap → startsWith insertInto (back ++ ahead) = false

variable {text found body left gap ahead : Text} {place : Found} {c : Char}

theorem statements_absent (absent : seekInsert? text = none) : statements text = [] := by
  rw [statements]
  split
  · rfl
  · rename_i other
    rw [absent] at other
    cases other

theorem statements_found (begins : seekInsert? text = some found)
    (ends : findStatementEnd found = some place) :
    statements text = (place.before ++ place.found) :: statements place.after := by
  rw [statements]
  split
  · rename_i absent
    rw [begins] at absent
    cases absent
  · rename_i other same
    obtain rfl : found = other := Option.some.inj (begins.symm.trans same)
    split
    · rename_i endless
      rw [ends] at endless
      cases endless
    · rename_i place' same
      obtain rfl : place = place' := Option.some.inj (ends.symm.trans same)
      rfl

theorem unfinished?_absent (absent : seekInsert? text = none) : unfinished? text = none := by
  rw [unfinished?]
  split
  · rfl
  · rename_i other
    rw [absent] at other
    cases other

theorem unfinished?_found (begins : seekInsert? text = some found)
    (ends : findStatementEnd found = some place) : unfinished? text = unfinished? place.after := by
  rw [unfinished?]
  split
  · rename_i absent
    rw [begins] at absent
    cases absent
  · rename_i other same
    obtain rfl : found = other := Option.some.inj (begins.symm.trans same)
    split
    · rename_i endless
      rw [ends] at endless
      cases endless
    · rename_i other same
      obtain rfl : place = other := Option.some.inj (ends.symm.trans same)
      rfl

theorem statements_endless (begins : seekInsert? text = some found)
    (endless : findStatementEnd found = none) : statements text = [] := by
  rw [statements]
  split
  · rfl
  · rename_i other same
    obtain rfl : found = other := Option.some.inj (begins.symm.trans same)
    split
    · rfl
    · rename_i ends
      rw [endless] at ends
      cases ends

/-- Which statements a text holds hangs on what is found from its first `insert into` on. -/
theorem statements_congr {other : Text} (same : seekInsert? text = seekInsert? other) :
    statements text = statements other := by
  cases begins : seekInsert? other with
  | none => rw [statements_absent begins, statements_absent (same.trans begins)]
  | some found =>
    cases ends : findStatementEnd found with
    | some place => rw [statements_found begins ends, statements_found (same.trans begins) ends]
    | none => rw [statements_endless begins ends, statements_endless (same.trans begins) ends]

theorem seekInsert?_cons (c : Char) (text : Text) :
    seekInsert? (c :: text) =
      if startsWith insertInto (c :: text) then some (c :: text) else seekInsert? text := by
  rw [seekInsert?, after?, startsWith]
  split <;> simp_all

theorem seekInsert?_here (begins : startsWith insertInto text = true) :
    seekInsert? text = some text := by
  cases text with
  | nil => cases begins
  | cons c rest => rw [seekInsert?_cons, if_pos begins]

theorem insertless_nil (ahead : Text) : Insertless [] ahead :=
  fun _ filled suffix => absurd (List.suffix_nil.mp suffix) filled

theorem insertless_cons :
    Insertless (c :: gap) ahead ↔
      startsWith insertInto (c :: (gap ++ ahead)) = false ∧ Insertless gap ahead := by
  constructor
  · intro free
    exact ⟨free (c :: gap) (by simp) (List.suffix_refl _), fun back filled suffix =>
      free back filled (suffix.trans (List.suffix_cons c gap))⟩
  · rintro ⟨here, free⟩ back filled suffix
    rcases List.suffix_cons_iff.mp suffix with rfl | later
    · exact here
    · exact free back filled later

theorem seekInsert?_gap (free : Insertless gap ahead) :
    seekInsert? (gap ++ ahead) = seekInsert? ahead := by
  induction gap with
  | nil => rfl
  | cons c rest ih =>
    obtain ⟨other, free⟩ := insertless_cons.mp free
    rw [List.cons_append, seekInsert?_cons, other, if_neg Bool.false_ne_true, ih free]

theorem insertless_of_absent (absent : seekInsert? text = none) : Insertless text [] := by
  induction text with
  | nil => exact insertless_nil []
  | cons c rest ih =>
    rw [seekInsert?_cons] at absent
    split at absent
    · cases absent
    · rename_i other
      exact insertless_cons.mpr ⟨by simpa using other, ih absent⟩

theorem exists_gap (begins : seekInsert? text = some found) :
    ∃ gap, text = gap ++ found ∧ Insertless gap found ∧ startsWith insertInto found = true := by
  induction text with
  | nil => cases begins
  | cons c rest ih =>
    rw [seekInsert?_cons] at begins
    split at begins
    · rename_i here
      obtain rfl := Option.some.inj begins
      exact ⟨[], rfl, insertless_nil _, here⟩
    · rename_i other
      obtain ⟨gap, rfl, free, starts⟩ := ih begins
      exact ⟨c :: gap, rfl, insertless_cons.mpr ⟨by simpa using other, free⟩, starts⟩

/-- The words `insert into` do not go on over a character that is none of theirs. -/
theorem startsWith_mark {mark : Char} (other : mark.toLower ∉ lower insertInto) (text rest : Text) :
    startsWith insertInto (text ++ mark :: rest) = startsWith insertInto text := by
  refine startsWith_append_eq fun c member => ?_
  obtain rfl : mark = c := Option.some.inj member
  exact other

theorem startsWith_newline (text rest : Text) :
    startsWith insertInto (text ++ '\n' :: rest) = startsWith insertInto text :=
  startsWith_mark (by decide) text rest

theorem startsWith_semicolon (text rest : Text) :
    startsWith insertInto (text ++ ';' :: rest) = startsWith insertInto text :=
  startsWith_mark (by decide) text rest

theorem seekInsert?_newline (text : Text) : seekInsert? ('\n' :: text) = seekInsert? text := by
  have other := startsWith_newline [] text
  rw [List.nil_append] at other
  rw [seekInsert?_cons, other]
  rfl

theorem Insertless.newline (free : Insertless gap ahead) (right : Text) :
    Insertless gap (ahead ++ '\n' :: right) := by
  intro back filled suffix
  rw [← List.append_assoc, startsWith_newline]
  exact free back filled suffix

theorem seekInsert?_append_absent (absent : seekInsert? left = none) (right : Text) :
    seekInsert? (left ++ '\n' :: right) = seekInsert? right := by
  have free : Insertless left ('\n' :: right) := (insertless_of_absent absent).newline right
  rw [seekInsert?_gap free, seekInsert?_newline]

theorem seekInsert?_append_found (begins : seekInsert? left = some found) (right : Text) :
    seekInsert? (left ++ '\n' :: right) = some (found ++ '\n' :: right) := by
  obtain ⟨gap, rfl, free, starts⟩ := exists_gap begins
  rw [List.append_assoc, seekInsert?_gap (free.newline right)]
  exact seekInsert?_here (by rw [startsWith_newline, starts])

/-- The end of a statement stays its end when more text follows. -/
theorem findStatementEnd_extend {more : Text} (apart : Apart text more)
    (ends : findStatementEnd text = some place) :
    findStatementEnd (text ++ more) = some (place.extend more) := by
  refine findFrom_extend apart (fun step => rfl) (fun step size accepted => ?_) ends
  unfold Step.semicolonSize? at accepted
  split at accepted
  · rename_i here
    have lexeme : step.lexeme = .char ';' := by
      simpa [Step.isChar] using (Bool.and_eq_true_iff.mp here).2
    obtain rfl : 1 = size := Option.some.inj accepted
    simp [Step.ahead, lexeme, Lexeme.text]
  · cases accepted

/-- The statements of two texts one above the other are those of the first, then those of the
second. -/
theorem statements_append (finished : unfinished? left = none) (right : Text) :
    statements (left ++ '\n' :: right) = statements left ++ statements right := by
  fun_induction unfinished? left with
  | case1 text absent =>
    rw [statements_absent absent]
    exact statements_congr (seekInsert?_append_absent absent right)
  | case2 => cases finished
  | case3 text found begins place ends shorter ih =>
    rw [statements_found begins ends, statements_found (seekInsert?_append_found begins right)
      (findStatementEnd_extend (.of_head (by simp)) ends)]
    exact congrArg _ (ih finished)

theorem findStatementEnd_semicolon
    (reads : Reads (fun state lexeme => ¬(state.atTop = true ∧ lexeme = .char ';')) .start body
      .start) (rest : Text) : findStatementEnd (body ++ ';' :: rest) = some ⟨body, [';'], rest⟩ := by
  have apart : Apart body (';' :: rest) := .of_head (by simp)
  have skipped : ∀ step ∈ scan none .start none body,
      (step.extend (';' :: rest)).semicolonSize? = none := by
    intro step member
    have here := reads.each step member
    simpa [Step.semicolonSize?, Step.isChar] using here
  have accepted : Step.semicolonSize? ⟨.start, lastChar none body, .char ';', rest⟩ = some 1 := rfl
  rw [findStatementEnd, findStep_append apart skipped reads.ends, findStep,
    findFrom_here (Lexeme.at_char (by decide)) accepted]
  simp [Found.precede]

theorem statements_cons
    (reads : Reads (fun state lexeme => ¬(state.atTop = true ∧ lexeme = .char ';')) .start body
      .start) {rest : Text} (begins : startsWith insertInto (body ++ ';' :: rest) = true) :
    statements (body ++ ';' :: rest) = (body ++ [';']) :: statements rest :=
  statements_found (seekInsert?_here begins) (findStatementEnd_semicolon reads rest)

end SeedCoverage.Sql

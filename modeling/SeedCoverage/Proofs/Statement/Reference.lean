import SeedCoverage.Proofs.Bytes.Statement

/-! References to tables. A reference is parts with a dot between them, and what is read of it is its last
part, whatever the others hold: a dot between marks parts nothing. The reading stands right behind it. -/
namespace SeedCoverage.Sql

open Text

/-- A part of a reference: a bare name without blanks, or any text between two marks that are not in it. -/
inductive NamePart where
  | bare (name : Text) (filled : name ≠ []) (named : ∀ c ∈ name, isNameChar c = true)
      (solid : ∀ c ∈ name, isBlank c = false)
  | marked (mark : Char) (content : Text) (sign : isPartMark mark = true) (absent : mark ∉ content)

namespace NamePart

/-- The part without its marks. -/
def content : NamePart → Text
  | bare name _ _ _ => name
  | marked _ content _ _ => content

/-- The part as it is written. -/
def text : NamePart → Text
  | bare name _ _ _ => name
  | marked mark content _ _ => mark :: content ++ [mark]

/-- Behind the part stands something else: a bare name would go on with a name character. -/
def EndsBefore (rest : Text) : NamePart → Prop
  | bare _ _ _ _ => ∀ c ∈ rest.head?, isNameChar c = false
  | marked _ _ _ _ => True

theorem endsBefore_dot (part : NamePart) (rest : Text) : part.EndsBefore ('.' :: rest) := by
  cases part with
  | bare name filled named solid => simp [EndsBefore]; decide
  | marked mark content sign absent => trivial

theorem exists_text (part : NamePart) : ∃ c more, part.text = c :: more ∧ isBlank c = false := by
  cases part with
  | bare name filled named solid =>
    obtain ⟨c, more, rfl⟩ := List.exists_cons_of_ne_nil filled
    exact ⟨c, more, rfl, solid c List.mem_cons_self⟩
  | marked mark content sign absent =>
    refine ⟨mark, content ++ [mark], rfl, ?_⟩
    rcases Bool.or_eq_true_iff.mp sign with quote | quote <;>
    · rw [beq_iff_eq.mp quote]
      decide

end NamePart

variable {rest : Text}

theorem namePart?_text {part : NamePart} (ends : part.EndsBefore rest) :
    namePart? (part.text ++ rest) = some (part.content, rest) := by
  cases part with
  | bare name filled named solid => exact namePart?_named filled named ends
  | marked mark content sign absent =>
    have inside : ∀ c ∈ content, (c != mark) = true := by
      intro c member
      rw [bne_iff_ne]
      rintro rfl
      exact absent member
    have text : (NamePart.marked mark content sign absent).text ++ rest =
        mark :: (content ++ mark :: rest) := by
      simp [NamePart.text]
    rw [text, namePart?, if_pos sign, List.dropWhile_append_of_pos inside,
      List.takeWhile_append_of_pos inside]
    simp [NamePart.content]

/-- Parts with a dot between them. -/
def reference (parts : List NamePart) : Text := join "." (parts.map NamePart.text)

theorem reference_cons (first : NamePart) (qualifiers : List NamePart) (part : NamePart) :
    reference (first :: qualifiers ++ [part]) = first.text ++ '.' :: reference (qualifiers ++ [part]) := by
  cases qualifiers with
  | nil => simp [reference, join]
  | cons second qualifiers => simp [reference, join]

theorem exists_reference (qualifiers : List NamePart) (part : NamePart) :
    ∃ c more, reference (qualifiers ++ [part]) = c :: more ∧ isBlank c = false := by
  cases qualifiers with
  | nil => exact part.exists_text
  | cons first qualifiers =>
    obtain ⟨c, more, text, solid⟩ := first.exists_text
    rw [reference_cons, text]
    exact ⟨c, _, rfl, solid⟩

/-- The last part of a reference and what stands behind it; a blank part is no name. -/
theorem tableName?_reference (qualifiers : List NamePart) {part : NamePart} (ends : part.EndsBefore rest)
    (undotted : rest.head? ≠ some '.') :
    tableName? (reference (qualifiers ++ [part]) ++ rest) =
      if (trim part.content).isEmpty then none else some (trim part.content, rest) := by
  induction qualifiers with
  | nil => exact tableName?_last (namePart?_text ends) undotted
  | cons first qualifiers ih =>
    have found := namePart?_text (first.endsBefore_dot (reference (qualifiers ++ [part]) ++ rest))
    rw [reference_cons, List.append_assoc, List.cons_append, tableName?_dot found, ih]

theorem trimStart_reference {blanks : Text} (blank : ∀ c ∈ blanks, isBlank c = true)
    (qualifiers : List NamePart) (part : NamePart) (rest : Text) :
    trimStart (blanks ++ (reference (qualifiers ++ [part]) ++ rest)) =
      reference (qualifiers ++ [part]) ++ rest := by
  obtain ⟨c, more, text, solid⟩ := exists_reference qualifiers part
  rw [trimStart, List.dropWhile_append_of_pos blank, text, List.cons_append,
    List.dropWhile_cons_of_neg (by simp [solid])]

namespace Bytes

/-- The name at an offset, blanks aside, and the offset behind it. -/
def nameBehind? (text : Text) (start : Nat) : Checked (Option (Text × Nat)) := do
  let blanks ← blanksSize (← cutFrom text start)
  tableName? text (start + blanks)

theorem target_nameBehind? {statement : Text} {start last : Nat}
    (found : findSpan (words insertInto) statement 0 = .ok (some (start, last))) :
    target statement = (nameBehind? statement last).map fun named =>
      named.elim (.error .missingTableName) .ok := by
  rw [target, found, nameBehind?]
  simp only [bind, Except.bind]
  cases cutFrom statement last with
  | error panic => rfl
  | ok behind =>
    dsimp only
    cases blanksSize behind with
    | error panic => rfl
    | ok blanks =>
      dsimp only
      cases tableName? statement (last + blanks) with
      | error panic => rfl
      | ok named => cases named <;> rfl

theorem nameBehind?_eq (front back : Text) :
    (Sql.tableName? (trimStart back) = none ∧
        nameBehind? (front ++ back) (byteSize front) = .ok none) ∨
      ∃ name read rest, back = read ++ rest ∧ Sql.tableName? (trimStart back) = some (name, rest) ∧
        nameBehind? (front ++ back) (byteSize front) = .ok (some (name, byteSize (front ++ read))) := by
  obtain ⟨blanks, parts, size⟩ := blanksSize_eq back
  have behind : cutFrom (front ++ back) (byteSize front) = .ok back := cutFrom_ok rfl rfl
  have text : front ++ back = front ++ blanks ++ trimStart back := by rw [List.append_assoc, ← parts]
  rw [nameBehind?]
  simp only [behind, size, bind, Except.bind, ← byteSize_append]
  rw [text]
  rcases tableName?_eq (front ++ blanks) (trimStart back) with
    absent | ⟨name, read, rest, whole, named, ends⟩
  · exact .inl absent
  · refine .inr ⟨name, blanks ++ read, rest, ?_, named, ?_⟩
    · rw [List.append_assoc, ← whole, ← parts]
    · rw [ends, List.append_assoc]

end Bytes

/-- What is read of a reference, past the blanks in front of it, is its last part without the blanks at its
ends, unless nothing else is in it; the text that is left, and the offset, are those right behind it. -/
theorem reference_last (front : Text) {blanks : Text} (blank : ∀ c ∈ blanks, isBlank c = true)
    (qualifiers : List NamePart) {part : NamePart} (ends : part.EndsBefore rest)
    (undotted : rest.head? ≠ some '.') :
    let written := blanks ++ reference (qualifiers ++ [part])
    let name := trim part.content
    tableName? (trimStart (written ++ rest)) = (if name.isEmpty then none else some (name, rest)) ∧
      Bytes.nameBehind? (front ++ (written ++ rest)) (byteSize front) =
        .ok (if name.isEmpty then none else some (name, byteSize (front ++ written))) := by
  intro written name
  have read : tableName? (trimStart (written ++ rest)) =
      if name.isEmpty then none else some (name, rest) := by
    rw [List.append_assoc, trimStart_reference blank, tableName?_reference qualifiers ends undotted]
  refine ⟨read, ?_⟩
  rcases Bytes.nameBehind?_eq front (written ++ rest) with
    ⟨absent, nowhere⟩ | ⟨found, before, after, whole, named, place⟩
  · rw [nowhere]
    rw [read] at absent
    split at absent
    · rename_i nothing
      rw [if_pos nothing]
    · cases absent
  · rw [place]
    rw [read] at named
    split at named
    · cases named
    · rename_i filled
      obtain ⟨rfl, rfl⟩ := Prod.mk.inj (Option.some.inj named)
      rw [if_neg filled, List.append_cancel_right whole]

/-- A dot between marks, and a letter of two bytes. -/
def archive : List NamePart :=
  [.marked '\x60' "v.2" rfl (by decide), .bare "über" (by decide) (by decide) (by decide)]

/-- A dot and blanks between marks. -/
def newItems : NamePart := .marked '"' " new.items " rfl (by decide)

/-- The reference to them, behind a blank of one byte and one of two. -/
def archiveNewItems : Text := " \u00a0\x60v.2\x60.über.\" new.items \""

theorem archive_newItems_last :
    (∀ c ∈ (" \u00a0" : Text), isBlank c = true) ∧ newItems.EndsBefore "(name)" ∧
      ("(name)" : Text).head? ≠ some '.' ∧
      " \u00a0" ++ reference (archive ++ [newItems]) = archiveNewItems ∧
      tableName? (trimStart (archiveNewItems ++ "(name)")) =
        some ("new.items".toList, "(name)".toList) ∧
      Bytes.nameBehind? ("INSERT INTO" ++ (archiveNewItems ++ "(name)")) 11 =
        .ok (some ("new.items".toList, 39)) := by
  have blank : ∀ c ∈ (" \u00a0" : Text), isBlank c = true := by decide
  have ends : newItems.EndsBefore "(name)" := trivial
  have undotted : ("(name)" : Text).head? ≠ some '.' := by decide
  have written : " \u00a0" ++ reference (archive ++ [newItems]) = archiveNewItems := by decide
  have name : trim newItems.content = "new.items" := by decide
  have first : byteSize "INSERT INTO" = 11 := by decide
  have last : byteSize ("INSERT INTO" ++ archiveNewItems) = 39 := by decide
  obtain ⟨read, place⟩ := reference_last "INSERT INTO" blank archive ends undotted
  rw [written, name] at read place
  rw [first, last] at place
  exact ⟨blank, ends, undotted, written, read, place⟩

end SeedCoverage.Sql

import SeedCoverage.Proofs.Catalog.Lookup
import SeedCoverage.Proofs.Search.Phrase
import SeedCoverage.Proofs.Split.Cells
import SeedCoverage.Sql.Insert

/-! The head of a statement, up to its column list, as it is written and as it is read. -/
namespace SeedCoverage.Sql

open Text

/-- Cells in parentheses. -/
def group (cells : List Text) : Text := '(' :: listed cells ++ [')']

/-- The table and the columns that a statement is about. -/
def insertHead (table : Text) (columns : List Text) : Text :=
  "INSERT INTO " ++ (table ++ ' ' :: group columns)

variable {table rest : Text} {columns : List Text}

theorem unmarked_of_nameChar {c : Char} (named : isNameChar c = true) : isPartMark c = false := by
  have other (mark : Char) (unnamed : isNameChar mark = false) : (c == mark) = false :=
    beq_eq_false_iff_ne.mpr (by rintro rfl; simp [named] at unnamed)
  simp [isPartMark, other '"' (by decide), other '\x60' (by decide)]

theorem namePart?_named {name : Text} (filled : name ≠ []) (named : ∀ c ∈ name, isNameChar c = true)
    (ends : ∀ c ∈ rest.head?, isNameChar c = false) : namePart? (name ++ rest) = some (name, rest) := by
  obtain ⟨c, chars, rfl⟩ := List.exists_cons_of_ne_nil filled
  obtain ⟨first, others⟩ := List.forall_mem_cons.mp named
  have stop : rest.takeWhile isNameChar = [] ∧ rest.dropWhile isNameChar = rest := by
    cases rest with
    | nil => exact ⟨rfl, rfl⟩
    | cons d rest => simp [ends d (by simp)]
  simp [namePart?, unmarked_of_nameChar first, first, List.takeWhile_append_of_pos others,
    List.dropWhile_append_of_pos others, stop]

theorem namePart?_identifier (identifier : isIdentifier table = true)
    (ends : ∀ c ∈ rest.head?, isNameChar c = false) :
    namePart? (table ++ rest) = some (table, rest) :=
  namePart?_named (ne_nil_of_identifier identifier)
    (fun c member => isNameChar_of_wordChar (wordChar_of_mem identifier c member)) ends

theorem tableName?_absent {text : Text} (absent : namePart? text = none) : tableName? text = none := by
  rw [tableName?]
  split <;> simp_all

theorem tableName?_dot {text part : Text} (found : namePart? text = some (part, '.' :: rest)) :
    tableName? text = tableName? rest := by
  rw [tableName?]
  split <;> simp_all

theorem tableName?_last {text part : Text} (found : namePart? text = some (part, rest))
    (last : rest.head? ≠ some '.') :
    tableName? text = if (trim part).isEmpty then none else some (trim part, rest) := by
  rw [tableName?]
  split
  · simp_all
  · rename_i dot
    obtain ⟨rfl, rfl⟩ := Prod.mk.inj (Option.some.inj (found.symm.trans dot))
    exact absurd rfl last
  · rename_i other
    obtain ⟨rfl, rfl⟩ := Prod.mk.inj (Option.some.inj (found.symm.trans other))
    rfl

theorem tableName?_identifier (identifier : isIdentifier table = true)
    (ends : ∀ c ∈ rest.head?, isNameChar c = false ∧ c ≠ '.') :
    tableName? (table ++ rest) = some (table, rest) := by
  have part := namePart?_identifier identifier fun c member => (ends c member).1
  have trimmed := (trimmed_of_wordChars (wordChar_of_mem identifier)).trim_eq
  have filled := ne_nil_of_identifier identifier
  rw [tableName?_last part fun dot => (ends '.' dot).2 rfl, trimmed, if_neg (by simpa using filled)]

theorem phraseIn_insertInto (rest : Text) :
    phraseIn insertInto ("INSERT INTO " ++ rest) = some ⟨[], "INSERT INTO", ' ' :: rest⟩ := by
  have found : phraseSize? (words insertInto) none ("INSERT INTO " ++ rest) = some 11 := rfl
  exact findPhrase_here rfl (by decide) found (by decide)

theorem target_insertHead (identifier : isIdentifier table = true) :
    target (insertHead table columns ++ rest) = .ok (table, ' ' :: (group columns ++ rest)) := by
  have shape : insertHead table columns ++ rest =
      "INSERT INTO " ++ (table ++ ' ' :: (group columns ++ rest)) := by
    unfold insertHead
    rw [List.append_assoc, List.append_assoc]
    rfl
  have trimmed := trimmed_of_wordChars (wordChar_of_mem identifier)
  have start : trimStart (' ' :: (table ++ ' ' :: (group columns ++ rest))) =
      table ++ ' ' :: (group columns ++ rest) := by
    obtain ⟨c, chars, rfl⟩ := List.exists_cons_of_ne_nil (ne_nil_of_identifier identifier)
    rw [trimStart_cons (by decide), trimStart_eq_self (by simpa using trimmed.1)]
  have named : tableName? (table ++ ' ' :: (group columns ++ rest)) =
      some (table, ' ' :: (group columns ++ rest)) :=
    tableName?_identifier identifier (by simp; decide)
  simp only [target, shape, phraseIn_insertInto, Option.bind_some, start, named]

theorem findClosingParen_group {inner : Text} (balanced : Balanced inner) :
    findClosingParen ('(' :: inner ++ ')' :: rest) = some ⟨'(' :: inner, [')'], rest⟩ := by
  have opened : Lexeme.at none .start '(' inner.head? = .char '(' := Lexeme.at_char (by decide)
  have inside := balanced.stays_inside
  have ends : State.start.afterText none ('(' :: inner) = .nested := by
    rw [afterText_single opened]
    exact inside.ends
  have apart : Apart ('(' :: inner) (')' :: rest) := .of_head (by simp)
  unfold findClosingParen
  rw [if_pos (by simp), findStep, findFrom_append apart, ends]
  · have closes : Step.closingSize?
        ⟨.nested, lastChar none ('(' :: inner), .char ')', rest⟩ = some 1 := rfl
    rw [findFrom_here (Lexeme.at_char (by decide)) closes]
    simp
  · intro step member
    rw [scan_single opened] at member
    rcases List.mem_cons.mp member with rfl | later
    · rfl
    · have stays := (inside.each_of _ step later).2
      simp [Step.closingSize?, Step.closesAll, Step.next, stays]

theorem dropMarks_identifier {column : Text} (identifier : isIdentifier column = true) :
    trim (dropEndWhile isPartMark (column.dropWhile isPartMark)) = column := by
  have word := wordChar_of_mem identifier
  have unmarked : ∀ c ∈ column, isPartMark c = false := by
    intro c member
    simp [isPartMark, ne_of_wordChar (word c member) (d := '"') (by decide),
      ne_of_wordChar (word c member) (d := '\x60') (by decide)]
  have front : column.dropWhile isPartMark = column := by
    cases column with
    | nil => rfl
    | cons c rest => simp [unmarked c (by simp)]
  rw [front, dropEndWhile_eq_self fun c member => unmarked c (List.mem_of_mem_getLast? member)]
  exact (trimmed_of_wordChars word).trim_eq

theorem columnNames_listed (some_column : columns ≠ [])
    (identifiers : ∀ column ∈ columns, isIdentifier column = true) :
    columnNames (listed columns) = .ok columns := by
  have cells : splitTop ',' (listed columns) = columns :=
    splitTop_listed fun column member => .of_identifier (identifiers column member)
  have names : columns.map (fun column =>
      trim (dropEndWhile isPartMark (column.dropWhile isPartMark))) = columns :=
    map_eq_self fun column member => dropMarks_identifier (identifiers column member)
  have filled : columns.any List.isEmpty = false := by
    simpa using fun column member => ne_nil_of_identifier (identifiers column member)
  simp [columnNames, cells, names, filled, some_column]

theorem columnList_group (some_column : columns ≠ [])
    (identifiers : ∀ column ∈ columns, isIdentifier column = true) :
    columnList (' ' :: (group columns ++ rest)) = .ok (columns, rest) := by
  have balanced : Balanced (listed columns) := .listed rfl (by decide) (by decide)
    fun column member => (Cell.of_identifier (identifiers column member)).balanced
  have start : trimStart (' ' :: (group columns ++ rest)) = '(' :: listed columns ++ ')' :: rest := by
    rw [trimStart_cons (by decide), trimStart_eq_self (by simp [group]; decide)]
    simp [group]
  have closed : findClosingParen ('(' :: listed columns ++ ')' :: rest) =
      some ⟨'(' :: listed columns, [')'], rest⟩ := findClosingParen_group balanced
  rw [columnList, start, closed]
  simp [columnNames_listed some_column identifiers, Except.map]

/-- Behind its head a statement is read for the rows of the table and the columns named there. -/
theorem readInsert_insertHead {catalog : Catalog} {id : catalog.Id} {hint : Option Text}
    (admits : hint.all (same (catalog.get id).name) = true) (some_column : columns ≠ [])
    (identifiers : ∀ column ∈ columns, isIdentifier column = true) :
    readInsert catalog hint (insertHead (catalog.get id).name columns ++ rest) =
      (rowSource rest).bind (alignRows id columns) := by
  have named : resolve catalog hint (catalog.get id).name = .ok id := by
    rw [resolve, catalog.lookup_get, Option.filter_some, if_pos admits]
  unfold readInsert
  simp only [target_insertHead (catalog.identifier_name id), named,
    columnList_group some_column identifiers, bind, Except.bind]

end SeedCoverage.Sql

import SeedCoverage.Proofs.Bytes.Rows
import SeedCoverage.Proofs.Bytes.Script
import SeedCoverage.Proofs.Statement.Head

/-! Reading one statement by offset. Each part begins at the offset behind the part before it, past
blanks, and what is read of it is cut out there. -/
namespace SeedCoverage.Sql.Bytes

open Text

/-- How many bytes the blanks take at the start of a text. -/
def blanksSize (text : Text) : Checked Nat := distance (byteSize (trimStart text)) (byteSize text)

/-- One part at an offset and the offset behind it. -/
def namePart? (text : Text) (start : Nat) : Checked (Option (Text × Nat)) := do
  match (octets text)[start]?.filter isPartMark with
  | some mark =>
    let body ← cutFrom text (start + 1)
    match body.dropWhile (· != mark) with
    | [] => return none
    | _ :: _ =>
      let close := start + 1 + byteSize (body.takeWhile (· != mark))
      return some (← cut text (start + 1) close, close + 1)
  | none =>
    let size := ((← bytesFrom (octets text) start).takeWhile isNameChar).length
    if size = 0 then return none
    else return some (← cut text start (start + size), start + size)

/-- The trimmed last part at an offset and the offset behind it. -/
def tableName? (text : Text) (start : Nat) : Checked (Option (Text × Nat)) := do
  match ← namePart? text start with
  | none => return none
  | some (part, last) =>
    if (octets text)[last]? = some '.' then
      if _moved : start < last + 1 ∧ last + 1 ≤ byteSize text then tableName? text (last + 1)
      else throw .stalled
    else return if (trim part).isEmpty then none else some (trim part, last)
termination_by byteSize text - start

/-- The name of the table and the offset behind it. -/
def target (statement : Text) : Checked (Except Skip (Text × Nat)) := do
  match ← findSpan (words insertInto) statement 0 with
  | none => return .error .missingTableName
  | some (_, last) =>
    let blanks ← blanksSize (← cutFrom statement last)
    match ← tableName? statement (last + blanks) with
    | none => return .error .missingTableName
    | some named => return .ok named

/-- The names in a column list, without the marks around them. -/
def columnNames (list : Text) : Checked (Except Skip (List Text)) := do
  let names := (← splitTop ',' list).map fun column =>
    trim (dropEndWhile isPartMark (column.dropWhile isPartMark))
  return if names.isEmpty then .error .emptyColumnList
  else if names.any List.isEmpty then .error .malformedColumnList
  else .ok names

/-- The column list at an offset, blanks aside, and the offset behind it. -/
def columnList (statement : Text) (start : Nat) : Checked (Except Skip (List Text × Nat)) := do
  let first := start + (← blanksSize (← cutFrom statement start))
  if (octets statement)[first]? = some '(' then
    match ← findClosing statement first with
    | none => return .error .unmatchedParen
    | some (close, last) =>
      let names ← columnNames (← cut statement (first + 1) close)
      return names.map fun names => (names, last)
  else return .error .missingColumnList

/-- The rows, from VALUES or SELECT, whichever comes first. -/
def rowSource (text : Text) : Checked (Except Skip Source) := do
  let values ← findSpan (words "values") text 0
  let select ← findSpan (words "select") text 0
  match values, select with
  | some (_, last), none => return .ok (.values (← valueRows (← cutFrom text last)))
  | some (list, last), some (query, _) =>
    if list < query then return .ok (.values (← valueRows (← cutFrom text last)))
    else return .ok (← ofQuery query)
  | none, some (query, _) => return .ok (← ofQuery query)
  | none, none => return .error .noRowSource
where
  ofQuery (first : Nat) : Checked Source := do
    let body := trimEnd (dropEndWhile (· == ';') (trim (← cutFrom text first)))
    return .select (← selectRows body) body

def readInsert (catalog : Catalog) (hint : Option Text) (statement : Text) :
    Checked (Outcome catalog) := do
  match ← target statement with
  | .error skip => return .error skip
  | .ok (name, afterName) =>
    match resolve catalog hint name with
    | .error skip => return .error skip
    | .ok table =>
      match ← columnList statement afterName with
      | .error skip => return .error skip
      | .ok (columns, afterColumns) =>
        match ← rowSource (← cutFrom statement afterColumns) with
        | .error skip => return .error skip
        | .ok source => return alignRows table columns source

/-- Every statement of SQL text that may hold comments. -/
def readScript (catalog : Catalog) (hint : Option Text) (sql : Text) :
    Checked (List (Outcome catalog)) := do
  (← statements (← stripComments sql)).mapM (readInsert catalog hint)

section Name

variable {front back : Text}

/-- The blanks are as long as what is read behind them is shorter. -/
theorem blanksSize_eq (text : Text) :
    ∃ blanks, text = blanks ++ trimStart text ∧ blanksSize text = .ok (byteSize blanks) := by
  have parts : text.takeWhile isBlank ++ trimStart text = text := List.takeWhile_append_dropWhile
  have size := congrArg byteSize parts
  rw [byteSize_append] at size
  refine ⟨_, parts.symm, ?_⟩
  rw [blanksSize, distance, if_neg (by omega)]
  exact congrArg Except.ok (by omega)

theorem getElem?_octets (front back : Text) :
    (octets (front ++ back))[byteSize front]? = (octets back).head? := by
  rw [← List.head?_drop, drop_octets]

theorem isAsciiChar_of_mark {c : Char} (mark : isPartMark c = true) : isAsciiChar c = true := by
  rcases Bool.or_eq_true_iff.mp mark with quote | quote <;>
  · rw [beq_iff_eq.mp quote]
    rfl

theorem isPartMark_bytewise : Bytewise isPartMark := by
  refine .of_high false fun c high => ?_
  cases mark : isPartMark c with
  | false => rfl
  | true => rw [isAsciiChar_of_mark mark] at high; cases high

/-- A part in marks goes up to the next mark of its kind. -/
theorem namePart?_marked {c : Char} (mark : isPartMark c = true) (front rest : Text) :
    (Sql.namePart? (c :: rest) = none ∧
        namePart? (front ++ c :: rest) (byteSize front) = .ok none) ∨
      ∃ part after, rest = part ++ c :: after ∧ Sql.namePart? (c :: rest) = some (part, after) ∧
        namePart? (front ++ c :: rest) (byteSize front) =
          .ok (some (part, byteSize (front ++ c :: (part ++ [c])))) := by
  have ascii := isAsciiChar_of_mark mark
  have sign : (octets (front ++ c :: rest))[byteSize front]?.filter isPartMark = some c := by
    rw [getElem?_octets, octets_ascii_cons ascii, List.head?_cons, Option.filter_some, if_pos mark]
  have size : byteSize (front ++ [c]) = byteSize front + 1 := by
    rw [byteSize_append, byteSize_singleton ascii]
  have text : front ++ [c] ++ rest = front ++ c :: rest := by rw [List.append_assoc]; rfl
  have body : cutFrom (front ++ c :: rest) (byteSize front + 1) = .ok rest := cutFrom_ok text size
  rw [Sql.namePart?, if_pos mark, namePart?, sign]
  simp only [bind, Except.bind, body]
  cases ends : rest.dropWhile (· != c) with
  | nil => exact .inl ⟨rfl, rfl⟩
  | cons d after =>
    obtain rfl : d = c := by
      have stops := List.head?_dropWhile_not (· != c) rest
      rw [ends] at stops
      simpa using stops
    have parts : rest.takeWhile (· != d) ++ d :: after = rest := by
      rw [← ends, List.takeWhile_append_dropWhile]
    have close : byteSize front + 1 + byteSize (rest.takeWhile (· != d)) =
        byteSize (front ++ [d] ++ rest.takeWhile (· != d)) := by
      rw [byteSize_append, size]
    have piece : cut (front ++ d :: rest) (byteSize front + 1)
        (byteSize front + 1 + byteSize (rest.takeWhile (· != d))) =
          .ok (rest.takeWhile (· != d)) := by
      have whole : front ++ [d] ++ (rest.takeWhile (· != d) ++ d :: after) = front ++ d :: rest := by
        rw [parts, text]
      rw [close]
      exact cut_ok whole size rfl
    refine .inr ⟨_, after, parts.symm, rfl, ?_⟩
    simp only [piece, pure, Except.pure]
    refine congrArg (fun place => Except.ok (some (_, place))) ?_
    rw [close, ← byteSize_singleton ascii, ← byteSize_append, List.append_assoc front,
      List.append_assoc front]
    rfl

theorem namePart?_bare (front : Text) (bare : back.head?.any isPartMark = false) :
    let name := back.takeWhile isNameChar
    Sql.namePart? back = (if name = [] then none else some (name, back.dropWhile isNameChar)) ∧
      namePart? (front ++ back) (byteSize front) =
        .ok (if name = [] then none else some (name, byteSize (front ++ name))) := by
  constructor
  · cases back with
    | nil => rfl
    | cons c rest =>
      have unmarked : ¬isPartMark c = true := by simpa using bare
      rw [Sql.namePart?, if_neg unmarked]
      by_cases named : isNameChar c = true
      · rw [if_pos named, List.takeWhile_cons_of_pos named, List.dropWhile_cons_of_pos named]
        rfl
      · rw [if_neg named, List.takeWhile_cons_of_neg named]
        rfl
  · have sign : (octets (front ++ back))[byteSize front]?.filter isPartMark = none := by
      rw [← isPartMark_bytewise.head?_octets, ← getElem?_octets front] at bare
      cases byte : (octets (front ++ back))[byteSize front]? with
      | none => rfl
      | some c =>
        rw [byte] at bare
        rw [Option.filter_some, show isPartMark c = false from bare]
        rfl
    have inside := byteSize_le_octets front back
    rw [namePart?, sign]
    simp only [bytesFrom_ok inside, drop_octets, isNameChar_bytewise.takeWhile_octets, length_octets,
      bind, Except.bind]
    by_cases nothing : back.takeWhile isNameChar = []
    · rw [nothing]
      rfl
    · have some_letter := byteSize_pos nothing
      have piece : cut (front ++ back) (byteSize front)
          (byteSize front + byteSize (back.takeWhile isNameChar)) =
            .ok (back.takeWhile isNameChar) :=
        cut_ok (by rw [List.takeWhile_append_dropWhile]) rfl (byteSize_append _ _)
      rw [if_neg (by omega), if_neg nothing, piece, byteSize_append]
      rfl

theorem namePart?_eq (front back : Text) :
    (Sql.namePart? back = none ∧ namePart? (front ++ back) (byteSize front) = .ok none) ∨
      ∃ part read rest, back = read ++ rest ∧ read ≠ [] ∧ Sql.namePart? back = some (part, rest) ∧
        namePart? (front ++ back) (byteSize front) = .ok (some (part, byteSize (front ++ read))) := by
  cases marked : back.head?.any isPartMark with
  | true =>
    obtain ⟨c, head, mark⟩ := (Option.any_eq_true _ _).mp marked
    obtain ⟨rest, rfl⟩ := List.head?_eq_some_iff.mp head
    rcases namePart?_marked mark front rest with absent | ⟨part, after, rfl, found, place⟩
    · exact .inl absent
    · exact .inr ⟨part, c :: (part ++ [c]), after, by simp, by simp, found, place⟩
  | false =>
    obtain ⟨found, place⟩ := namePart?_bare front marked
    rw [found, place]
    by_cases nothing : back.takeWhile isNameChar = []
    · exact .inl ⟨if_pos nothing, by rw [if_pos nothing]⟩
    · exact .inr ⟨_, _, _, List.takeWhile_append_dropWhile.symm, nothing, if_neg nothing,
        by rw [if_neg nothing]⟩

theorem tableName?_eq (front back : Text) :
    (Sql.tableName? back = none ∧ tableName? (front ++ back) (byteSize front) = .ok none) ∨
      ∃ name read rest, back = read ++ rest ∧ Sql.tableName? back = some (name, rest) ∧
        tableName? (front ++ back) (byteSize front) = .ok (some (name, byteSize (front ++ read))) := by
  induction size : back.length using Nat.strongRecOn generalizing front back with
  | _ length ih =>
    rw [tableName?]
    rcases namePart?_eq front back with
      ⟨absent, nowhere⟩ | ⟨part, read, rest, rfl, letters, found, place⟩
    · refine .inl ⟨tableName?_absent absent, ?_⟩
      rw [nowhere]
      rfl
    · have next : (octets (front ++ (read ++ rest)))[byteSize (front ++ read)]? =
          (octets rest).head? := by
        rw [← List.append_assoc, getElem?_octets]
      simp only [place, next, bind, Except.bind]
      by_cases dot : rest.head? = some '.'
      · obtain ⟨more, rfl⟩ := List.head?_eq_some_iff.mp dot
        have step : byteSize (front ++ read) + 1 = byteSize (front ++ (read ++ ['.'])) := by
          rw [← List.append_assoc front, byteSize_append (front ++ read)]
          rfl
        have shorter : more.length < length := by
          rw [← size]
          simp only [List.length_append, List.length_cons]
          omega
        have moved : byteSize front < byteSize (front ++ (read ++ ['.'])) ∧
            byteSize (front ++ (read ++ ['.'])) ≤ byteSize (front ++ (read ++ '.' :: more)) := by
          have := byteSize_pos letters
          simp only [byteSize_append, byteSize]
          omega
        have text : front ++ (read ++ '.' :: more) = front ++ (read ++ ['.']) ++ more := by simp
        have sign : (octets ('.' :: more)).head? = some '.' := (head?_octets_eq_some rfl _).mpr rfl
        rw [if_pos sign, step, dif_pos moved, text]
        rcases ih _ shorter (front ++ (read ++ ['.'])) more rfl with
          ⟨absent, nowhere⟩ | ⟨name, behind, rest, rfl, named, ends⟩
        · exact .inl ⟨(tableName?_dot found).trans absent, nowhere⟩
        · refine .inr ⟨name, read ++ '.' :: behind, rest, by simp,
            (tableName?_dot found).trans named, ?_⟩
          rw [ends, List.append_assoc front]
          simp
      · rw [if_neg (by rwa [head?_octets_eq_some rfl]), tableName?_last found dot]
        by_cases blank : (trim part).isEmpty = true
        · exact .inl ⟨if_pos blank, by rw [if_pos blank]; rfl⟩
        · exact .inr ⟨_, read, rest, rfl, if_neg blank, by rw [if_neg blank]; rfl⟩

end Name

section Head

theorem target_eq (statement : Text) :
    (∃ skip, Sql.target statement = .error skip ∧ target statement = .ok (.error skip)) ∨
      ∃ name front back, statement = front ++ back ∧ Sql.target statement = .ok (name, back) ∧
        target statement = .ok (.ok (name, byteSize front)) := by
  rw [Sql.target, target, findSpan_words (by decide)]
  cases found : phraseIn insertInto statement with
  | none => exact .inl ⟨_, rfl, rfl⟩
  | some place =>
    obtain ⟨whole, _⟩ := findPhrase_parts wordsFrom_filled found
    obtain ⟨blanks, parts, size⟩ := blanksSize_eq place.after
    have behind : cutFrom statement (byteSize (place.before ++ place.found)) = .ok place.after :=
      cutFrom_ok (by rw [List.append_assoc, whole]) rfl
    have text : statement = place.before ++ place.found ++ blanks ++ trimStart place.after := by
      rw [List.append_assoc _ blanks, ← parts, List.append_assoc, whole]
    simp only [Option.map_some, Option.bind_some, span, List.nil_append, bind, Except.bind, behind,
      size, ← byteSize_append]
    rcases tableName?_eq (place.before ++ place.found ++ blanks) (trimStart place.after) with
      ⟨absent, nowhere⟩ | ⟨name, read, rest, more, named, ends⟩
    · rw [text, nowhere, absent]
      exact .inl ⟨_, rfl, rfl⟩
    · refine .inr ⟨name, place.before ++ place.found ++ blanks ++ read, rest, ?_, ?_, ?_⟩
      · rw [List.append_assoc _ read, ← more, ← text]
      · rw [named]
      · rw [text, ends]
        rfl

theorem columnNames_eq (list : Text) : columnNames list = .ok (Sql.columnNames list) := by
  rw [columnNames, splitTop_eq rfl]
  rfl

theorem findClosingParen_parts {text : Text} {place : Found}
    (found : findClosingParen text = some place) :
    ∃ inner, place.before = '(' :: inner ∧ '(' :: inner ++ (place.found ++ place.after) = text := by
  unfold findClosingParen at found
  split at found
  · rename_i opens
    have whole := findStep_whole found
    cases before : place.before with
    | cons c inner =>
      rw [before] at whole
      rw [← whole] at opens
      obtain rfl : c = '(' := by simpa using opens
      exact ⟨inner, rfl, whole⟩
    | nil =>
      obtain ⟨step, member, size, accepted, rfl⟩ := findStep_some found
      unfold Step.closingSize? at accepted
      split at accepted
      · rename_i closes
        obtain rfl : 1 = size := Option.some.inj accepted
        have lexeme : step.lexeme = .char ')' := beq_iff_eq.mp (Bool.and_eq_true_iff.mp closes).1
        rw [← whole, before] at opens
        simp [Step.ahead, lexeme, Lexeme.text] at opens
      · cases accepted
  · cases found

theorem columnList_eq (front back : Text) :
    (∃ skip, Sql.columnList back = .error skip ∧
        columnList (front ++ back) (byteSize front) = .ok (.error skip)) ∨
      ∃ names read rest, back = read ++ rest ∧ Sql.columnList back = .ok (names, rest) ∧
        columnList (front ++ back) (byteSize front) = .ok (.ok (names, byteSize (front ++ read))) := by
  obtain ⟨blanks, parts, size⟩ := blanksSize_eq back
  have behind : cutFrom (front ++ back) (byteSize front) = .ok back := cutFrom_ok rfl rfl
  have text : front ++ back = front ++ blanks ++ trimStart back := by rw [List.append_assoc, ← parts]
  rw [Sql.columnList, columnList]
  simp only [behind, size, bind, Except.bind, ← byteSize_append]
  have sign : (octets (trimStart back)).head? = some '(' ↔ (trimStart back).head? = some '(' :=
    head?_octets_eq_some rfl _
  rw [text, getElem?_octets, findClosing_eq]
  by_cases opens : (trimStart back).head? = some '('
  · rw [if_pos opens, if_pos (sign.mpr opens)]
    cases found : findClosingParen (trimStart back) with
    | none => exact .inl ⟨_, rfl, rfl⟩
    | some place =>
      obtain ⟨inner, before, whole⟩ := findClosingParen_parts found
      have step : byteSize (front ++ blanks) + 1 = byteSize (front ++ blanks ++ ['(']) :=
        (byteSize_append _ ['(']).symm
      have list : cut (front ++ blanks ++ trimStart back) (byteSize (front ++ blanks) + 1)
          (byteSize (front ++ blanks ++ '(' :: inner)) = .ok inner := by
        have text : front ++ blanks ++ ['('] ++ (inner ++ (place.found ++ place.after)) =
            front ++ blanks ++ trimStart back := by
          rw [← whole, List.append_assoc _ ['(']]
          rfl
        refine cut_ok text step.symm ?_
        rw [List.append_assoc _ ['(']]
        rfl
      simp only [Option.map_some, span, list, columnNames_eq, before, List.tail_cons]
      cases Sql.columnNames inner with
      | error skip => exact .inl ⟨_, rfl, rfl⟩
      | ok names =>
        refine .inr ⟨names, blanks ++ (place.before ++ place.found), place.after, ?_, rfl, ?_⟩
        · rw [List.append_assoc, List.append_assoc, before, whole, ← parts]
        · rw [before, ← List.append_assoc front]
          rfl
  · rw [if_neg opens, if_neg (mt sign.mp opens)]
    exact .inl ⟨_, rfl, rfl⟩

end Head

section Source

theorem ofQuery_eq {text : Text} {query : Found} (found : phraseIn "select" text = some query) :
    rowSource.ofQuery text (span [] query).1 = .ok (Sql.rowSource.ofQuery query) := by
  have whole := (findPhrase_parts wordsFrom_filled found).1
  have rest : cutFrom text (byteSize query.before) = .ok (query.found ++ query.after) :=
    cutFrom_ok whole rfl
  rw [rowSource.ofQuery, Sql.rowSource.ofQuery]
  simp only [span, List.nil_append, rest, bind, Except.bind, selectRows_eq]
  rfl

theorem rowSource_eq (text : Text) : rowSource text = .ok (Sql.rowSource text) := by
  rw [rowSource, Sql.rowSource, findSpan_words (by decide), findSpan_words (by decide)]
  have behind {list : Found} (found : phraseIn "values" text = some list) :
      cutFrom text (span [] list).2 = .ok list.after :=
    cutFrom_ok (by rw [List.nil_append, List.append_assoc,
      (findPhrase_parts wordsFrom_filled found).1]) rfl
  cases found : phraseIn "values" text with
  | none =>
    cases asked : phraseIn "select" text with
    | none => rfl
    | some query =>
      simp only [Option.map_some, Option.map_none, bind, Except.bind, ofQuery_eq asked]
      rfl
  | some list =>
    cases asked : phraseIn "select" text with
    | none =>
      simp only [Option.map_some, Option.map_none, bind, Except.bind, behind found, valueRows_eq]
      rfl
    | some query =>
      have first : (span [] list).1 < (span [] query).1 ↔ list.before.length < query.before.length :=
        byteSize_lt_iff (before_begins wordsFrom_filled found) (before_begins wordsFrom_filled asked)
      simp only [Option.map_some, bind, Except.bind, behind found, valueRows_eq, ofQuery_eq asked,
        first]
      split <;> rfl

end Source

theorem readInsert_eq (catalog : Catalog) (hint : Option Text) (statement : Text) :
    readInsert catalog hint statement = .ok (Sql.readInsert catalog hint statement) := by
  rw [readInsert, Sql.readInsert]
  rcases target_eq statement with ⟨skip, skipped, skips⟩ | ⟨name, front, back, whole, named, names⟩
  · rw [skipped, skips]
    rfl
  · rw [named, names]
    simp only [bind, Except.bind]
    cases resolve catalog hint name with
    | error skip => rfl
    | ok table =>
      simp only
      rcases columnList_eq front back with
        ⟨skip, skipped, skips⟩ | ⟨columns, read, rest, behind, listed, lists⟩
      · rw [whole, skips, skipped]
        rfl
      · have body : cutFrom statement (byteSize (front ++ read)) = .ok rest :=
          cutFrom_ok (by rw [List.append_assoc, ← behind, whole]) rfl
        rw [whole, lists, listed, ← whole]
        simp only [body, rowSource_eq]
        cases Sql.rowSource rest <;> rfl

theorem readScript_eq (catalog : Catalog) (hint : Option Text) (sql : Text) :
    readScript catalog hint sql = .ok (Sql.readScript catalog hint sql) := by
  rw [readScript, stripComments_eq]
  simp only [bind, Except.bind, statements_eq]
  exact mapM_ok _ fun statement _ => readInsert_eq catalog hint statement

end SeedCoverage.Sql.Bytes

import SeedCoverage.Proofs.Split.Union
import SeedCoverage.Proofs.Statement.Head

/-! The rows of a literal SELECT. Each clause projects one row, and no clause is taken to read from a
relation. -/
namespace SeedCoverage.Sql

open Text

/-- The phrases that end a projection or a clause. -/
def closers : List Text := ["from", "where", "on conflict", "returning", "union all"]

/-- A token that ends where it was written to end: it closes what it opens and nothing else, and no
comma, semicolon or closing phrase stands at its top level. -/
structure Closed (token : Text) : Prop where
  filled : token ≠ []
  trimmed : trim token = token
  balanced : Balanced token
  uncut : ∀ step ∈ steps token, step.state.atTop = true →
    step.lexeme ≠ .char ',' ∧ step.lexeme ≠ .char ';'
  free : ∀ phrase ∈ closers, phraseIn phrase token = none

instance (token : Text) : Decidable (Closed token) :=
  decidable_of_iff (token ≠ [] ∧ trim token = token ∧ Balanced token ∧
    (∀ step ∈ steps token, step.state.atTop = true →
      step.lexeme ≠ .char ',' ∧ step.lexeme ≠ .char ';') ∧
    ∀ phrase ∈ closers, phraseIn phrase token = none)
    ⟨fun ⟨filled, trimmed, balanced, uncut, free⟩ => ⟨filled, trimmed, balanced, uncut, free⟩,
      fun ⟨filled, trimmed, balanced, uncut, free⟩ => ⟨filled, trimmed, balanced, uncut, free⟩⟩

/-- The clause that projects one row. -/
def clause (row : Row) : Text := "SELECT " ++ listed row

/-- A statement that selects its rows one by one, up to the semicolon. -/
def selectStatement (table : Text) (columns : List Text) (rows : List Row) : Text :=
  insertHead table columns ++ ' ' :: united (rows.map clause)

/-- No semicolon at the top level, and nothing that closes too much. -/
def inClause (state : State) (lexeme : Lexeme) : Prop :=
  state.strays lexeme = false ∧ ¬(state.atTop = true ∧ lexeme = .char ';')

instance (state : State) (lexeme : Lexeme) : Decidable (inClause state lexeme) :=
  inferInstanceAs (Decidable (_ ∧ _))

/-- No semicolon at the top level, whatever is closed. -/
def unended (state : State) (lexeme : Lexeme) : Prop :=
  ¬(state.atTop = true ∧ lexeme = .char ';')

instance (state : State) (lexeme : Lexeme) : Decidable (unended state lexeme) :=
  inferInstanceAs (Decidable (¬_))

theorem Reads.unended {state final : State} {text : Text} (reads : Reads inClause state text final) :
    Reads unended state text final :=
  reads.mono fun _ _ allowed => allowed.2

theorem Closed.cell {token : Text} (closed : Closed token) : Cell token where
  filled := closed.filled
  trimmed := trim_eq_self_iff.mp closed.trimmed
  reads := ⟨closed.balanced.ends, fun step member =>
    ⟨closed.balanced.each step member, fun ⟨top, comma⟩ =>
      (closed.uncut step member top).1 comma⟩⟩

theorem Closed.inClause {token : Text} (closed : Closed token) :
    Reads inClause .start token .start :=
  ⟨closed.balanced.ends, fun step member =>
    ⟨closed.balanced.each step member, fun ⟨top, semicolon⟩ =>
      (closed.uncut step member top).2 semicolon⟩⟩

theorem Reads.last_ne_semicolon {text : Text} (reads : Reads Sql.unended .start text .start) :
    ∀ c ∈ text.getLast?, c ≠ ';' := by
  rintro c last rfl
  obtain ⟨front, rfl⟩ := List.getLast?_eq_some_iff.mp last
  have apart : Apart front [';'] := .of_head (by simp)
  have here : (⟨State.start.afterText none front, lastChar none front, .char ';', []⟩ : Step) ∈
      scan none .start none (front ++ [';']) := by
    rw [scan_append apart, scan_char (by decide)]
    simp
  have closes := reads.ends
  rw [afterText_append apart, afterText_single (Lexeme.at_char (by decide))] at closes
  have top : State.start.afterText none front = .start := by
    generalize State.start.afterText none front = state at closes
    rcases state with ⟨quote, parens, brackets⟩
    cases quote with
    | code => exact closes
    | single => cases closes
    | double => cases closes
  exact reads.each _ here ⟨by simp [top, State.atTop_iff], rfl⟩

section Phrase

variable {phrase : Text} {row : Row} {right : Text}

theorem Closed.quiet {token : Text} (closed : Closed token) (closer : phrase ∈ closers)
    (bars : Bars (words phrase) right) : Quiet (words phrase) token right := by
  have some_word : ∀ phrase ∈ closers, words phrase ≠ [] := by decide
  exact .of_steps bars (absent_of_findPhrase (some_word phrase closer) (closed.free phrase closer))

/-- No closing phrase goes on with a comma. -/
theorem bars_comma (closer : phrase ∈ closers) (rest : Text) : Bars (words phrase) (',' :: rest) := by
  have outside : ∀ phrase ∈ closers, ∀ word ∈ words phrase, ','.toLower ∉ lower word := by decide
  have some_letter : ∀ phrase ∈ closers, ∀ word ∈ (words phrase).tail, word ≠ [] := by decide
  exact .of_head rfl (by decide) (outside phrase closer) (some_letter phrase closer)

theorem bars_nil (closer : phrase ∈ closers) : Bars (words phrase) [] := by
  have some_letter : ∀ phrase ∈ closers, ∀ word ∈ (words phrase).tail, word ≠ [] := by decide
  exact .nil (some_letter phrase closer)

/-- No closing phrase begins with a letter of `text`. -/
theorem unstarted_of_closer {text : Text} (closer : phrase ∈ closers)
    (outside : ∀ first ∈ ['f', 'w', 'o', 'r', 'u'], ∀ c ∈ text, c.toLower ≠ first) :
    Unstarted (words phrase) text := by
  have letter : ∀ phrase ∈ closers, (phraseHead? (words phrase)).any (fun first =>
      ['f', 'w', 'o', 'r', 'u'].contains first && first.toLower == first) = true := by decide
  obtain ⟨first, head, known⟩ := (Option.any_eq_true _ _).mp (letter phrase closer)
  obtain ⟨member, same⟩ := Bool.and_eq_true_iff.mp known
  have lowered : first.toLower = first := beq_iff_eq.mp same
  exact ⟨first, head, fun c present =>
    lowered.symm ▸ outside first (List.contains_iff_mem.mp member) c present⟩

theorem quiet_listed (closed : ∀ token ∈ row, Closed token) (closer : phrase ∈ closers)
    (bars : Bars (words phrase) right) : Quiet (words phrase) (listed row) right := by
  induction row with
  | nil =>
    intro previous step member
    simp [listed, join, scan] at member
  | cons first rest ih =>
    have here := closed first (by simp)
    cases rest with
    | nil => exact here.quiet closer bars
    | cons second rest =>
      have later := ih fun token member => closed token (by simp [member])
      have between : Quiet (words phrase) [',', ' '] (listed (second :: rest) ++ right) :=
        .of_unstarted (unstarted_of_closer closer (by decide))
      rw [listed_cons]
      exact .append (.of_head (by simp)) here.balanced.ends (here.quiet closer (bars_comma closer _))
        (@Quiet.append _ [',', ' '] _ _ (.of_last (by simp)) rfl between later)

/-- Between SELECT and the end of its clause no closing phrase begins. -/
theorem quiet_projection (closed : ∀ token ∈ row, Closed token) (closer : phrase ∈ closers)
    (bars : Bars (words phrase) right) : Quiet (words phrase) (' ' :: listed row) right := by
  have blank : Quiet (words phrase) [' '] (listed row ++ right) :=
    .of_unstarted (unstarted_of_closer closer (by decide))
  exact .append (.of_last (by simp)) rfl blank (quiet_listed closed closer bars)

theorem findPhrase_projection (closed : ∀ token ∈ row, Closed token) (closer : phrase ∈ closers)
    (previous : Option Char) : findPhrase (words phrase) previous (' ' :: listed row) = none :=
  (quiet_projection closed closer (bars_nil closer)).findPhrase_eq_none

theorem quiet_clause (closed : ∀ token ∈ row, Closed token) (closer : phrase ∈ closers)
    (bars : Bars (words phrase) right) : Quiet (words phrase) (clause row) right :=
  .append (.of_last (by decide)) rfl (.of_unstarted (unstarted_of_closer closer (by decide)))
    (quiet_listed closed closer bars)

end Phrase

variable {row : Row}

theorem reads_row (closed : ∀ token ∈ row, Closed token) :
    Reads inClause .start (listed row) .start :=
  .listed rfl (by decide) (by decide) fun token member => (closed token member).inClause

theorem listed_ne_nil (some_token : row ≠ []) (closed : ∀ token ∈ row, Closed token) :
    listed row ≠ [] :=
  join_ne_nil some_token fun token member => (closed token member).filled

theorem trimmed_row (closed : ∀ token ∈ row, Closed token) : Trimmed (listed row) :=
  join_trimmed (fun token member => (closed token member).filled)
    fun token member => (closed token member).cell.trimmed

theorem reads_clause (closed : ∀ token ∈ row, Closed token) :
    Reads inClause .start (clause row) .start := by
  have select : Reads inClause .start "SELECT " .start := .chars rfl (by decide)
  exact select.append (reads_row closed) (.of_last (by decide))

theorem Clause.of_row (some_token : row ≠ []) (closed : ∀ token ∈ row, Closed token) :
    Clause (clause row) where
  filled := List.append_ne_nil_of_left_ne_nil (by decide) _
  trimmed := by
    have select : Trimmed "SELECT" := ⟨by decide, by decide⟩
    exact @Trimmed.append _ [' '] _ select (trimmed_row closed) (by decide)
      (listed_ne_nil some_token closed)
  ends := (reads_clause closed).ends
  quiet right bars := @quiet_clause "union all" row right closed (by decide) bars

theorem phraseIn_select (more : Text) :
    phraseIn "select" ("SELECT " ++ more) = some ⟨[], "SELECT", ' ' :: more⟩ := by
  have size : phraseSize? (words "select") none ("SELECT " ++ more) = some 6 := rfl
  exact findPhrase_here rfl (by decide) size (by decide)

/-- A row ends in no semicolon that would be dropped. -/
theorem splitTop_row (closed : ∀ token ∈ row, Closed token) :
    splitTop ',' (dropEndWhile (· == ';') (listed row)) = row := by
  have last := (reads_row closed).unended.last_ne_semicolon
  rw [dropEndWhile_eq_self (by simpa using last)]
  exact splitTop_listed fun token member => (closed token member).cell

theorem projection_clause (closed : ∀ token ∈ row, Closed token) :
    projection (clause row) = row := by
  have found : phraseIn "select" (clause row) = some ⟨[], "SELECT", ' ' :: listed row⟩ :=
    phraseIn_select (listed row)
  have absent (phrase : Text) (closer : phrase ∈ closers) :=
    findPhrase_projection closed closer (some 'T')
  have relation : findPhrase ["from"] (some 'T') (' ' :: listed row) = none :=
    absent "from" (by decide)
  have tail : beforeFirst tailPhrases (some 'T') (' ' :: listed row) = ' ' :: listed row := by
    have closing : ∀ phrase ∈ tailPhrases, phrase ∈ closers := by decide
    have nothing : (tailPhrases.filterMap fun phrase =>
        (findPhrase (words phrase) (some 'T') (' ' :: listed row)).map Found.before) = [] :=
      List.filterMap_eq_nil_iff.mpr fun phrase member => by
        rw [absent phrase (closing phrase member), Option.map_none]
    rw [beforeFirst, nothing, List.foldl_nil]
  have kept : trim (' ' :: listed row) = listed row := by
    rw [trim_cons (by decide), (trimmed_row closed).trim_eq]
  have last : "SELECT".toList.getLast? = some 'T' := rfl
  simp only [projection, found, last, relation, tail, kept]
  exact splitTop_row closed

variable {rows : List Row}

/-- Rows that a statement can select one by one. -/
structure Selectable (rows : List Row) : Prop where
  some_row : rows ≠ []
  some_token : ∀ row ∈ rows, row ≠ []
  closed : ∀ row ∈ rows, ∀ token ∈ row, Closed token

theorem Selectable.clauses (selectable : Selectable rows) :
    unionClauses (united (rows.map clause)) = rows.map clause :=
  unionClauses_united (by simpa using selectable.some_row) fun text member => by
    obtain ⟨row, present, rfl⟩ := List.mem_map.mp member
    exact .of_row (selectable.some_token row present) (selectable.closed row present)

theorem Selectable.selectRows_eq (selectable : Selectable rows) :
    selectRows (united (rows.map clause)) = rows := by
  have projected : (rows.map clause).map projection = rows := by
    rw [List.map_map]
    refine map_eq_self fun row member => ?_
    rw [Function.comp_apply, projection_clause (selectable.closed row member)]
  rw [selectRows, selectable.clauses, projected]
  exact List.filter_eq_self.mpr fun row member => by simpa using selectable.some_token row member

/-- Rows that are written out are no rows of a relation. -/
theorem Selectable.readsRelation_eq (selectable : Selectable rows) :
    readsRelation (united (rows.map clause)) = false := by
  rw [readsRelation, selectable.clauses, List.any_eq_false]
  intro text member
  obtain ⟨row, present, rfl⟩ := List.mem_map.mp member
  have closer : "from".toList ∈ closers := by decide
  have quiet := quiet_clause (selectable.closed row present) closer (bars_nil closer)
  have absent : phraseIn "from" (clause row) = none := quiet.findPhrase_eq_none
  rw [absent]
  decide

theorem Selectable.reads (selectable : Selectable rows) :
    Reads inClause .start (united (rows.map clause)) .start := by
  have between : Reads inClause .start " UNION ALL " .start := .chars rfl (by decide)
  refine .join between (by decide) (by decide) (by decide) fun text member => ?_
  obtain ⟨row, present, rfl⟩ := List.mem_map.mp member
  exact reads_clause (selectable.closed row present)

theorem Selectable.trimmed (selectable : Selectable rows) : Trimmed (united (rows.map clause)) := by
  have each (text : Text) (member : text ∈ rows.map clause) : Clause text := by
    obtain ⟨row, present, rfl⟩ := List.mem_map.mp member
    exact .of_row (selectable.some_token row present) (selectable.closed row present)
  exact join_trimmed (fun text member => (each text member).filled)
    fun text member => (each text member).trimmed

theorem Selectable.exists_select (selectable : Selectable rows) :
    ∃ more, united (rows.map clause) = "SELECT " ++ more := by
  obtain ⟨row, others, rfl⟩ := List.exists_cons_of_ne_nil selectable.some_row
  cases others with
  | nil => exact ⟨_, rfl⟩
  | cons second others =>
    rw [List.map_cons, List.map_cons, united_cons]
    unfold clause
    rw [List.append_assoc]
    exact ⟨_, rfl⟩

/-- A statement that begins to select is read as one query, whatever stands behind that. -/
theorem rowSource_query (rest : Text) :
    rowSource (' ' :: ("SELECT " ++ rest)) = .ok (rowSource.ofQuery ⟨[' '], "SELECT", ' ' :: rest⟩) := by
  have size : phraseSize? (words "select") (some ' ') ("SELECT " ++ rest) = some 6 := rfl
  have select : phraseIn "select" (' ' :: ("SELECT " ++ rest)) =
      some ⟨[' '], "SELECT", ' ' :: rest⟩ :=
    findPhrase_blank rfl (by decide) size ⟨'s', rfl, by decide⟩
  have front : Quiet (words "values") [' ', 'S'] ("ELECT " ++ rest) :=
    .of_unstarted ⟨'v', rfl, by decide⟩
  have values : phraseIn "values" (' ' :: ("SELECT " ++ rest)) =
      (findPhrase (words "values") (some 'S') ("ELECT " ++ rest)).map (Found.precede [' ', 'S']) :=
    front.findPhrase_append (.of_head (by simp)) rfl
  unfold rowSource
  rw [values, select]
  cases findPhrase (words "values") (some 'S') ("ELECT " ++ rest) with
  | none => rfl
  | some list =>
    have later : ¬(list.precede [' ', 'S']).before.length < [' '].length := by simp [Found.precede]
    simp only [Option.map_some, if_neg later]

theorem rowSource_select {more : Text} (last : ∀ c ∈ ("SELECT " ++ more).getLast?, c ≠ ';') :
    rowSource (' ' :: ("SELECT " ++ (more ++ [';']))) =
      .ok (.select (selectRows (trimEnd ("SELECT " ++ more))) (trimEnd ("SELECT " ++ more))) := by
  have whole : "SELECT".toList ++ ' ' :: (more ++ [';']) = "SELECT " ++ more ++ [';'] := rfl
  have semicolon : Trimmed ("SELECT " ++ more ++ [';']) :=
    @Trimmed.append "SELECT" (' ' :: more) [';'] ⟨by decide, by decide⟩ ⟨by decide, by decide⟩
      (by decide) (by decide)
  have body : trimEnd (dropEndWhile (· == ';') (trim ("SELECT " ++ more ++ [';']))) =
      trimEnd ("SELECT " ++ more) := by
    rw [semicolon.trim_eq, dropEndWhile_concat (by decide),
      dropEndWhile_eq_self (by simpa using last)]
  rw [rowSource_query, rowSource.ofQuery, whole, body]

/-- A statement that selects its rows one by one has those rows. -/
theorem readInsert_select {catalog : Catalog} {id : catalog.Id} {hint : Option Text}
    {columns : List Text} (admits : hint.all (same (catalog.get id).name) = true)
    (some_column : columns ≠ []) (identifiers : ∀ column ∈ columns, isIdentifier column = true)
    (selectable : Selectable rows) :
    readInsert catalog hint (selectStatement (catalog.get id).name columns rows ++ [';']) =
      alignRows id columns (.select rows (united (rows.map clause))) := by
  obtain ⟨more, body⟩ := selectable.exists_select
  have source : rowSource (' ' :: (united (rows.map clause) ++ [';'])) =
      .ok (.select rows (united (rows.map clause))) := by
    have last := selectable.reads.unended.last_ne_semicolon
    have trimmed : trimEnd (united (rows.map clause)) = united (rows.map clause) :=
      dropEndWhile_eq_self selectable.trimmed.2
    have kept := selectable.selectRows_eq
    rw [body] at last trimmed kept ⊢
    rw [List.append_assoc, rowSource_select last, trimmed, kept]
  rw [selectStatement, List.append_assoc, List.cons_append,
    readInsert_insertHead admits some_column identifiers, source]
  rfl

end SeedCoverage.Sql

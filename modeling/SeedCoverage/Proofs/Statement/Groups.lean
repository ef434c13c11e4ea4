import SeedCoverage.Proofs.Statement.Align
import SeedCoverage.Proofs.Text.Trim

/-! What a statement that is read has kept of the groups that it lists. All of them are accounted for:
those as wide as the column list are its rows, in their order, and the others are rejected, unless they
are the target of a conflict. A hint decides whether a statement is read, and nothing else about it. -/
namespace SeedCoverage.Sql

open Text

variable {catalog : Catalog}

/-- The text behind the column list of a statement. -/
def statementBody (statement : Text) : Except Skip Text := do
  let (_, afterName) ← target statement
  let (_, body) ← columnList afterName
  .ok body

/-- The groups from which a source takes its rows: those in parentheses behind the VALUES of the body,
or the projections of the clauses of its SELECT. -/
def Source.groups? (body : Text) : Source → Option (List Row)
  | .values _ => (phraseIn "values" body).map fun list => valueRows list.after
  | .select _ query => some (selectRows query)

theorem Source.groups?_withRows (body : Text) (rows : List Row) (source : Source) :
    (source.withRows rows).groups? body = source.groups? body := by
  cases source <;> rfl

theorem Source.withRows_withRows (rows others : List Row) (source : Source) :
    (source.withRows rows).withRows others = source.withRows others := by
  cases source <;> rfl

/-- What a statement keeps of the groups that it lists. -/
structure Insert.Keeps (insert : Insert catalog) (groups : List Row) : Prop where
  some_column : insert.columns ≠ []
  named : ∀ name ∈ insert.columns, blank name = false
  some_row : insert.rows ≠ []
  even : ∀ row ∈ insert.rows, row.length = insert.columns.length
  kept : insert.rows = groups.filter fun row => row.length == insert.columns.length
  counted : insert.rows.length + insert.rejected +
    (groups.countP fun row => row.length != insert.columns.length && isArtifact row) = groups.length

theorem columnNames_ok {list : Text} {names : List Text} (read : columnNames list = .ok names) :
    names ≠ [] ∧ ∀ name ∈ names, blank name = false := by
  simp only [columnNames] at read
  split at read
  · cases read
  · rename_i some_name
    split at read
    · cases read
    · rename_i filled
      obtain rfl := Except.ok.inj read
      refine ⟨by simpa using some_name, fun name member => ?_⟩
      obtain ⟨column, _, rfl⟩ := List.mem_map.mp member
      refine (trimmed_trim _).not_blank fun empty => filled ?_
      exact List.any_eq_true.mpr ⟨_, member, List.isEmpty_iff.mpr empty⟩

theorem columnList_ok {text body : Text} {columns : List Text}
    (read : columnList text = .ok (columns, body)) :
    columns ≠ [] ∧ ∀ name ∈ columns, blank name = false := by
  simp only [columnList] at read
  split at read
  · split at read
    · cases read
    · rename_i place _
      cases names : columnNames place.before.tail with
      | error => simp [names, Except.map] at read
      | ok found =>
        simp only [names, Except.map, Except.ok.injEq, Prod.mk.injEq] at read
        exact read.1 ▸ columnNames_ok names
  · cases read

/-- The rows of a source, before any of them is given up, are its groups. -/
theorem rowSource_groups {body : Text} {source : Source} (found : rowSource body = .ok source) :
    source.groups? body = some source.rows := by
  have listed {list : Found} (values : phraseIn "values" body = some list) :
      Source.groups? body (.values (valueRows list.after)) = some (valueRows list.after) := by
    rw [Source.groups?, values]
    rfl
  simp only [rowSource] at found
  split at found
  · rename_i list values _
    obtain rfl := Except.ok.inj found
    exact listed values
  · rename_i list query values _
    split at found
    · obtain rfl := Except.ok.inj found
      exact listed values
    · obtain rfl := Except.ok.inj found
      rfl
  · obtain rfl := Except.ok.inj found
    rfl
  · cases found

private theorem length_parted (fits artifact : Row → Bool) (rows : List Row) :
    (rows.filter fits).length + rows.countP (fun row => !fits row && !artifact row) +
      rows.countP (fun row => !fits row && artifact row) = rows.length := by
  have others := rows.countP_eq_countP_filter_add (fun row => !fits row) artifact
  rw [List.countP_filter, List.countP_filter] at others
  have whole : rows.length = rows.countP fits + rows.countP fun row => !fits row := by
    simpa using List.length_eq_countP_add_countP fits
  rw [← List.countP_eq_length_filter]
  omega

theorem alignRows_keeps {id : catalog.Id} {columns : List Text} {source : Source}
    {insert : Insert catalog} (aligned : alignRows id columns source = .ok insert)
    (some_column : columns ≠ []) (named : ∀ name ∈ columns, blank name = false) :
    insert.Keeps source.rows := by
  obtain ⟨some_row, rfl⟩ := alignRows_eq_ok_iff.mp aligned
  constructor
  · exact some_column
  · exact named
  · rwa [Insert.rows, Source.rows_withRows]
  · intro row member
    rw [Insert.rows, Source.rows_withRows] at member
    exact beq_iff_eq.mp (List.mem_filter.mp member).2
  · exact Source.rows_withRows _ _
  · rw [Insert.rows, Source.rows_withRows]
    exact length_parted _ isArtifact source.rows

/-- Whatever a statement is, if it is read it has columns with names and rows as wide as they are, which
are those of its groups that have that width, in their order; together with the rows that are rejected
and the targets of a conflict they are all of its groups. With a hint, a statement is read just where it
is read without one and is about the table that the hint names, and then alike. -/
theorem readInsert_keeps (statement : Text) (insert : Insert catalog) :
    (∀ hint, readInsert catalog hint statement = .ok insert →
      ∃ body groups, statementBody statement = .ok body ∧
        rowSource body = .ok (insert.source.withRows groups) ∧
        insert.source.groups? body = some groups ∧ insert.Keeps groups) ∧
    ∀ hint, readInsert catalog (some hint) statement = .ok insert ↔
      readInsert catalog none statement = .ok insert ∧
        same (catalog.get insert.table).name hint = true := by
  constructor
  · intro hint read
    obtain ⟨name, afterName, columns, body, source, named, _, listed, found, aligned⟩ :=
      readInsert_eq_ok_iff.mp read
    have whole : statementBody statement = .ok body :=
      bind_eq_ok.mpr ⟨(name, afterName), named, bind_eq_ok.mpr ⟨(columns, body), listed, rfl⟩⟩
    obtain ⟨some_column, filled⟩ := columnList_ok listed
    refine ⟨body, source.rows, whole, ?_, ?_, alignRows_keeps aligned some_column filled⟩
    all_goals rw [(alignRows_ok aligned).2.1]
    · rw [Source.withRows_withRows, Source.withRows_rows, found]
    · rw [Source.groups?_withRows, rowSource_groups found]
  · intro hint
    exact readInsert_hint

/-- Two items, a group that is too narrow between them, and the target of a conflict. -/
def mixedGroups : Text :=
  "INSERT INTO items (name, icon) VALUES ('Sword', NULL), ('Axe'), ('Bow', 'b.png') " ++
    "ON CONFLICT (name) DO NOTHING;"

/-- Two of four groups are kept and one is rejected. -/
theorem mixedGroups_kept :
    ∃ (insert : Insert .builtin) (body : Text) (groups : List Row),
      readInsert .builtin (some "ITEMS") mixedGroups = .ok insert ∧
      readInsert .builtin none mixedGroups = .ok insert ∧
      statementBody mixedGroups = .ok body ∧ insert.source.groups? body = some groups ∧
      groups.length = 4 ∧ insert.rows.length = 2 ∧ insert.rejected = 1 ∧ insert.Keeps groups := by
  have facts : (readInsert .builtin (some "ITEMS") mixedGroups).toOption.any fun insert =>
      (statementBody mixedGroups).toOption.all fun body =>
        (insert.source.groups? body).all (·.length = 4) ∧ insert.rows.length = 2 ∧
          insert.rejected = 1 := by
    decide +kernel
  obtain ⟨insert, read, facts⟩ := exists_ok facts
  obtain ⟨keeps, hinted⟩ := readInsert_keeps mixedGroups insert
  obtain ⟨unhinted, _⟩ := (hinted "ITEMS").mp read
  obtain ⟨body, groups, found, _, listed, kept⟩ := keeps _ read
  rw [found] at facts
  obtain ⟨four, two, one⟩ := of_decide_eq_true facts
  rw [listed] at four
  exact ⟨insert, body, groups, read, unhinted, found, listed, of_decide_eq_true four, two, one, kept⟩

end SeedCoverage.Sql

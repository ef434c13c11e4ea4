import SeedCoverage.Proofs.Statement.Align
import SeedCoverage.Proofs.Statement.Select
import SeedCoverage.Proofs.Statement.Values
import SeedCoverage.Coverage.Tally

/-! Rows that are written out count the same, whether they stand in a VALUES list or are selected one
by one. -/
namespace SeedCoverage

open Text Sql

variable {catalog : Catalog}

theorem Sql.Insert.leader?_own {table : catalog.Id} {columns : List Text} {rows : List Row}
    {body : Text} {rejected : Nat} (own : readsRelation body = false) :
    (⟨table, columns, .select rows body, rejected⟩ : Insert catalog).leader? = none := by
  rw [Insert.leader?]
  exact if_neg (by simp [own])

theorem Tally.fold_select (tally : Tally catalog) (table : catalog.Id) (columns : List Text)
    (rows : List Row) {body : Text} (own : readsRelation body = false) (rejected : Nat)
    (origin : Text) (statement : Nat) :
    tally.fold ⟨table, columns, .values rows, rejected⟩ origin statement =
      tally.fold ⟨table, columns, .select rows body, rejected⟩ origin statement := by
  unfold Tally.fold
  rw [Insert.leader?_own own]
  rfl

/-- Both ways to write rows of closed tokens give exactly those rows, and count the same in every
tally. -/
theorem values_agrees_with_select {id : catalog.Id} {hint : Option Text} {columns : List Text}
    {rows : List Row} (admits : hint.all (same (catalog.get id).name) = true)
    (some_column : columns ≠ []) (identifiers : ∀ column ∈ columns, isIdentifier column = true)
    (some_row : rows ≠ []) (widths : ∀ row ∈ rows, row.length = columns.length)
    (closed : ∀ row ∈ rows, ∀ token ∈ row, Closed token) :
    ∃ listed selected : Insert catalog,
      readInsert catalog hint (valuesStatement (catalog.get id).name columns rows ++ [';']) =
          .ok listed ∧
        readInsert catalog hint (selectStatement (catalog.get id).name columns rows ++ [';']) =
          .ok selected ∧
        (∀ insert ∈ [listed, selected], insert.table = id ∧ insert.columns = columns ∧
          insert.rows = rows ∧ insert.rejected = 0) ∧
        ∀ (tally : Tally catalog) (origin : Text) (statement : Nat),
          tally.fold listed origin statement = tally.fold selected origin statement := by
  have selectable : Selectable rows := by
    refine ⟨some_row, fun row member => ?_, closed⟩
    rintro rfl
    exact some_column (List.length_eq_zero_iff.mp (widths [] member).symm)
  have values := readInsert_values admits some_column identifiers
    (fun row member token inRow => (closed row member token inRow).cell) [';']
  have select := readInsert_select admits some_column identifiers selectable
  have even (source : Source) (same : source.rows = rows) :
      alignRows id columns source = .ok ⟨id, columns, source, 0⟩ :=
    alignRows_even (same ▸ some_row) (same ▸ widths)
  rw [valueRows_semicolon, List.append_nil, even _ rfl] at values
  rw [even _ rfl] at select
  refine ⟨_, _, values, select, ?_, fun tally origin statement =>
    tally.fold_select id columns rows selectable.readsRelation_eq 0 origin statement⟩
  intro insert member
  simp only [List.mem_cons, List.not_mem_nil, or_false] at member
  rcases member with rfl | rfl
  · exact ⟨rfl, rfl, rfl, rfl⟩
  · exact ⟨rfl, rfl, rfl, rfl⟩

/-- Tokens with a quote, a semicolon, commas, brackets and a FROM inside. -/
def nestedRows : List Row :=
  [["'O''Brien (from)'", "f(NULL, 'a;b')"], ["ARRAY[1, 2]", "(SELECT x FROM y)::text"]]

theorem nestedRows_agree : ∃ listed selected : Insert Catalog.builtin,
    readInsert .builtin none (valuesStatement "items" ["name", "icon"] nestedRows ++ [';']) =
        .ok listed ∧
      readInsert .builtin none (selectStatement "items" ["name", "icon"] nestedRows ++ [';']) =
        .ok selected ∧
      (∀ insert ∈ [listed, selected], insert.table = ⟨0, by decide⟩ ∧
        insert.columns = (["name", "icon"] : List Text) ∧ insert.rows = nestedRows ∧
          insert.rejected = 0) ∧
      ∀ (tally : Tally .builtin) (origin : Text) (statement : Nat),
        tally.fold listed origin statement = tally.fold selected origin statement :=
  @values_agrees_with_select .builtin ⟨0, by decide⟩ none ["name", "icon"] nestedRows rfl
    (by decide) (by decide) (by decide) (by decide) (by decide +kernel)

end SeedCoverage

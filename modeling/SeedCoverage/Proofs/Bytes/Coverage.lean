import SeedCoverage.Proofs.Bytes.Statement
import SeedCoverage.Coverage.Tally

/-! Counting with checked cuts. No text breaks the reading of a script, the counting of a statement or
the test of a value off: every cut that they make goes through. -/
namespace SeedCoverage

open Text Sql

namespace Sql.Bytes

/-- The content up to the quote that closes it, and the offset of this quote. -/
def unescape? (offset : Nat) : Text → Option (Text × Nat)
  | [] => none
  | [c] => if c = '\'' then some ([], offset) else none
  | c :: d :: rest =>
    if c = '\'' then
      if d = '\'' then
        (unescape? (offset + 2) rest).map fun (content, close) => ('\'' :: content, close)
      else some ([], offset)
    else
      (unescape? (offset + c.utf8Size) (d :: rest)).map fun (content, close) => (c :: content, close)

/-- The content of a token that is one string literal, with or without a cast behind it. -/
def literalContent? (token : Text) : Checked (Option Text) := do
  let token := trim token
  if token.head? = some '\'' then
    let body := token.tail
    match unescape? 0 body with
    | none => return none
    | some (content, close) =>
      let cast := trimStart (← cutFrom body (close + 1))
      return if cast.isEmpty || cast.take 2 == [':', ':'] then some content else none
  else return none

def isPresent (token : Text) : Checked Bool := do
  if blank token || isNull token then return false
  else
    match ← literalContent? token with
    | some content => return !blank content
    | none => return true

/-- No value, or one that is not present. -/
def lacking : Option Text → Checked Bool
  | none => return true
  | some value => return !(← isPresent value)

/-- The required fields for which no column has the name, or whose value is not present. -/
def missingFields (required columns : List Text) (row : Row) : Checked (List Text) := do
  let missing ← required.mapM fun field =>
    return if ← lacking ((columns.findIdx? fun column => same column field).bind (row[·]?)) then
      some field else none
  return missing.filterMap id

/-- The rows that are data, each with its place from 1 and the fields it lacks. -/
def verdicts (required columns : List Text) (rows : List Row) : Checked (List (Nat × List Text)) :=
  ((rows.zipIdx 1).filter fun (row, _) => !isArtifact row).mapM fun (row, place) =>
    return (place, ← missingFields required columns row)

variable {catalog : Catalog}

/-- The table that a statement follows. -/
def leader? (insert : Insert catalog) : Checked (Option catalog.Id) := do
  match insert.source with
  | .values _ => return none
  | .select _ body => return if ← readsRelation body then catalog.parentOf insert.table else none

/-- Counts a statement; `origin` and `statement` say in a gap where it stands. -/
def fold (tally : Tally catalog) (insert : Insert catalog) (origin : Text) (statement : Nat) :
    Checked (Tally catalog) := do
  let tally :=
    { tally with parsed := tally.parsed + 1, rejected := tally.rejected + insert.rejected }
  let spec := catalog.get insert.table
  let judged ← verdicts spec.required insert.columns insert.rows
  let gap (rows : UInt64) (verdict : Nat × List Text) : Gap :=
    ⟨spec.name, origin, statement, verdict.1, rows, verdict.2⟩
  if judged.isEmpty then return tally
  else
    match ← leader? insert with
    | some leader =>
      let rows := (tally.count leader).total
      return (judged.map (gap rows)).foldl Tally.note
        (tally.add insert.table rows (judged.all fun verdict => verdict.2.isEmpty))
    | none =>
      return judged.foldl
        (fun tally verdict => (tally.add insert.table 1 verdict.2.isEmpty).note (gap 1 verdict)) tally

theorem unescape?_eq (front back : Text) :
    (Sql.unescape? back = none ∧ unescape? (byteSize front) back = none) ∨
      ∃ content read after, back = read ++ '\'' :: after ∧
        Sql.unescape? back = some (content, after) ∧
        unescape? (byteSize front) back = some (content, byteSize (front ++ read)) := by
  fun_induction Sql.unescape? back generalizing front with
  | case1 => exact .inl ⟨rfl, rfl⟩
  | case2 => exact .inr ⟨[], [], [], rfl, rfl, by rw [List.append_nil]; rfl⟩
  | case3 c other => exact .inl ⟨rfl, if_neg other⟩
  | case4 rest ih =>
    have size : byteSize front + 2 = byteSize (front ++ ['\'', '\'']) := by
      rw [byteSize_append]
      rfl
    rw [unescape?, if_pos rfl, if_pos rfl, size]
    rcases ih (front ++ ['\'', '\'']) with
      ⟨absent, nowhere⟩ | ⟨content, read, after, rfl, found, place⟩
    · exact .inl ⟨by rw [absent]; rfl, by rw [nowhere]; rfl⟩
    · refine .inr ⟨'\'' :: content, '\'' :: '\'' :: read, after, rfl, by rw [found]; rfl, ?_⟩
      rw [place, List.append_assoc]
      rfl
  | case5 d rest single =>
    refine .inr ⟨[], [], d :: rest, rfl, rfl, ?_⟩
    rw [unescape?, if_pos rfl, if_neg single, List.append_nil]
  | case6 c d rest other ih =>
    have size : byteSize front + c.utf8Size = byteSize (front ++ [c]) := by
      rw [byteSize_append]
      rfl
    rw [unescape?, if_neg other, size]
    rcases ih (front ++ [c]) with ⟨absent, nowhere⟩ | ⟨content, read, after, whole, found, place⟩
    · exact .inl ⟨by rw [absent]; rfl, by rw [nowhere]; rfl⟩
    · refine .inr ⟨c :: content, c :: read, after, by rw [whole]; rfl, by rw [found]; rfl, ?_⟩
      rw [place, List.append_assoc]
      rfl

theorem literalContent?_eq (token : Text) :
    literalContent? token = .ok (Sql.literalContent? token) := by
  rw [literalContent?, Sql.literalContent?]
  by_cases quoted : (trim token).head? = some '\''
  · obtain ⟨body, token⟩ := List.head?_eq_some_iff.mp quoted
    rw [if_pos quoted, token, List.tail_cons]
    rcases unescape?_eq [] body with ⟨absent, nowhere⟩ | ⟨content, read, after, whole, found, close⟩
    · have nowhere : unescape? 0 body = none := nowhere
      simp only [absent, nowhere]
      rfl
    · have close : unescape? 0 body = some (content, byteSize read) := close
      have parts : read ++ ['\''] ++ after = body := by
        rw [whole, List.append_assoc]
        rfl
      have behind : cutFrom body (byteSize read + 1) = .ok after :=
        cutFrom_ok parts (byteSize_append _ _)
      simp only [found, close, bind, Except.bind, behind, Option.bind_some]
      rfl
  · rw [if_neg quoted]
    split
    · rename_i body token
      exact absurd (congrArg List.head? token) quoted
    · rfl

theorem isPresent_eq (token : Text) : isPresent token = .ok (Sql.isPresent token) := by
  rw [isPresent, Sql.isPresent, literalContent?_eq]
  split
  · rfl
  · cases Sql.literalContent? token <;> rfl

theorem lacking_eq (value : Option Text) : lacking value = .ok (!value.any Sql.isPresent) := by
  cases value with
  | none => rfl
  | some value =>
    rw [lacking, isPresent_eq]
    rfl

theorem missingFields_eq (required columns : List Text) (row : Row) :
    missingFields required columns row = .ok (SeedCoverage.missingFields required columns row) := by
  have missing := mapM_ok required (f := fun field =>
      return if ← lacking ((columns.findIdx? fun column => same column field).bind (row[·]?)) then
        some field else none)
    fun field _ => by
      rw [lacking_eq]
      rfl
  rw [missingFields, missing, SeedCoverage.missingFields, ← List.filterMap_eq_filter]
  exact congrArg Except.ok List.filterMap_map

theorem verdicts_eq (required columns : List Text) (rows : List Row) :
    verdicts required columns rows = .ok (SeedCoverage.verdicts required columns rows) :=
  mapM_ok _ fun verdict _ => by
    simp only [missingFields_eq]
    rfl

theorem leader?_eq (insert : Insert catalog) : leader? insert = .ok insert.leader? := by
  rw [leader?, Insert.leader?]
  cases insert.source with
  | values rows => rfl
  | select rows body =>
    simp only [readsRelation_eq]
    cases Sql.readsRelation body <;> rfl

theorem fold_eq (tally : Tally catalog) (insert : Insert catalog) (origin : Text) (statement : Nat) :
    fold tally insert origin statement = .ok (tally.fold insert origin statement) := by
  rw [fold, Tally.fold, verdicts_eq]
  simp only [bind, Except.bind]
  split
  · rfl
  · rw [leader?_eq]
    cases insert.leader? <;> rfl

/-- No text breaks anything off. Every cut that is made in stripping its comments, in carving out and
reading its statements and in splitting it ends behind its begin, inside the text, and is made between
characters; so a script is always read, a statement counted and a value tested. -/
theorem cuts_stay_inside (catalog : Catalog) (hint : Option Text) (text : Text) (delimiter : Char)
    (ascii : isAsciiChar delimiter = true) :
    (∀ first last, (∃ middle, cut text first last = .ok middle) ↔
      first ≤ last ∧ last ≤ byteSize text ∧ IsPlace text first ∧ IsPlace text last) ∧
    stripComments text = .ok (Sql.stripComments text) ∧
    statements text = .ok (Sql.statements text) ∧
    readInsert catalog hint text = .ok (Sql.readInsert catalog hint text) ∧
    splitTop delimiter text = .ok (Sql.splitTop delimiter text) ∧
    unionClauses text = .ok (Sql.unionClauses text) ∧
    literalContent? text = .ok (Sql.literalContent? text) ∧
    readScript catalog hint text = .ok (Sql.readScript catalog hint text) ∧
    (∀ (tally : Tally catalog) (insert : Insert catalog) (origin : Text) (statement : Nat),
      fold tally insert origin statement = .ok (tally.fold insert origin statement)) ∧
    isPresent text = .ok (Sql.isPresent text) :=
  ⟨fun _ _ => cut_goes_iff, stripComments_eq text, statements_eq text,
    readInsert_eq catalog hint text, splitTop_eq ascii text, unionClauses_eq text,
    literalContent?_eq text, readScript_eq catalog hint text, fold_eq, isPresent_eq text⟩

theorem cuts_stay_inside_umlauts :
    let sql : Text := "INSERT INTO items (name) VALUES ('Bär', 'Öl' -- ß\n);"
    isAsciiChar ',' = true ∧ splitTop ',' sql = .ok (Sql.splitTop ',' sql) ∧
      readScript .builtin none sql = .ok (Sql.readScript .builtin none sql) :=
  have safe := cuts_stay_inside .builtin none
    "INSERT INTO items (name) VALUES ('Bär', 'Öl' -- ß\n);" ',' rfl
  ⟨rfl, safe.2.2.2.2.1, safe.2.2.2.2.2.2.2.1⟩

end Sql.Bytes
end SeedCoverage

import SeedCoverage.Catalog
import SeedCoverage.Sql.Comment
import SeedCoverage.Sql.Literal
import SeedCoverage.Sql.Split
import SeedCoverage.Sql.Statement
import SeedCoverage.Sql.TableName

/-! Reading one INSERT statement: its table, its columns, and its rows. Rows are the groups of a
VALUES list, or the projections of a SELECT and of every clause united with it. -/
namespace SeedCoverage.Sql

open Text

/-- The tokens of one row, in the order of the columns. -/
abbrev Row := List Text

/-- Where the rows of a statement come from. -/
inductive Source where
  | values (rows : List Row)
  | select (rows : List Row) (body : Text)
  deriving DecidableEq, Repr

namespace Source

def rows : Source → List Row
  | values rows => rows
  | select rows _ => rows

/-- The text of the SELECT. -/
def body? : Source → Option Text
  | values _ => none
  | select _ body => some body

/-- The same source with other rows. -/
def withRows (rows : List Row) : Source → Source
  | values _ => values rows
  | select _ body => select rows body

/-- The word that introduces the rows. -/
def keyword : Source → Text
  | values _ => "VALUES"
  | select _ _ => "SELECT"

end Source

/-- A statement read against a catalog. `rejected` counts the rows of another width than the
column list. -/
structure Insert (catalog : Catalog) where
  table : catalog.Id
  columns : List Text
  source : Source
  rejected : Nat

def Insert.rows {catalog : Catalog} (insert : Insert catalog) : List Row := insert.source.rows

/-- Why a statement is passed over. -/
inductive Skip where
  | missingTableName
  | unknownTable (name : Text)
  | missingColumnList
  | unmatchedParen
  | emptyColumnList
  | malformedColumnList
  | noRowSource
  | noRows
  deriving DecidableEq, Repr

def Skip.message : Skip → Text
  | .missingTableName => "no table name after INSERT INTO"
  | .unknownTable name => "table '" ++ name ++ "' is not tracked"
  | .missingColumnList => "no column list after table name"
  | .unmatchedParen => "unmatched parenthesis in column list"
  | .emptyColumnList => "empty column list"
  | .malformedColumnList => "blank column name in column list"
  | .noRowSource => "no VALUES or SELECT clause"
  | .noRows => "no row matches the column count"

/-- The statement is about a table that the catalog does not hold. -/
def Skip.outOfScope : Skip → Bool
  | .unknownTable _ => true
  | _ => false

/-- What reading a statement gives. -/
abbrev Outcome (catalog : Catalog) := Except Skip (Insert catalog)

/-- A row that is no data: the lone column `name` of a conflict target. -/
def isArtifact : Row → Bool
  | [token] => same (trim token) "name"
  | _ => false

/-- A parenthesis that opens a row. -/
def Step.opensRow (step : Step) : Bool := step.state.outsideParens && step.isChar '('

/-- A semicolon outside parentheses; brackets do not hide it. -/
def Step.endsRows (step : Step) : Bool := step.state.outsideParens && step.isChar ';'

/-- The texts in parentheses, for every parenthesis that opens a row and is closed. -/
def groupTexts : List Step → List Text
  | [] => []
  | step :: rest =>
    if step.opensRow && rest.any Step.closesAll then
      stepsText (rest.takeWhile fun inner => !inner.closesAll) :: groupTexts rest
    else groupTexts rest

/-- The rows behind VALUES, up to the semicolon. -/
def valueRows (text : Text) : List Row :=
  (groupTexts ((steps text).takeWhile fun step => !step.endsRows)).map (splitTop ',')

/-- The phrases that end a projection without FROM. -/
def tailPhrases : List Text := ["where", "on conflict", "returning"]

/-- The text before the phrase that occurs first. -/
def beforeFirst (phrases : List Text) (previous : Option Char) (text : Text) : Text :=
  (phrases.filterMap fun phrase => (findPhrase (words phrase) previous text).map Found.before).foldl
    (fun shortest before => if before.length < shortest.length then before else shortest) text

/-- The expressions of one clause: between SELECT and FROM, or else up to the tail. -/
def projection (clause : Text) : Row :=
  match phraseIn "select" clause with
  | none => []
  | some place =>
    let previous := place.found.getLast?
    let listed := match findPhrase ["from"] previous place.after with
      | some source => source.before
      | none => beforeFirst tailPhrases previous place.after
    splitTop ',' (dropEndWhile (· == ';') (trim listed))

/-- One row for every clause that projects something. -/
def selectRows (body : Text) : List Row :=
  ((unionClauses body).map projection).filter fun row => !row.isEmpty

/-- Whether some clause reads from a relation. -/
def readsRelation (body : Text) : Bool :=
  (unionClauses body).any fun clause => (phraseIn "from" clause).isSome

/-- The names in a column list, without the marks around them. -/
def columnNames (list : Text) : Except Skip (List Text) :=
  let names := (splitTop ',' list).map fun column =>
    trim (dropEndWhile isPartMark (column.dropWhile isPartMark))
  if names.isEmpty then .error .emptyColumnList
  else if names.any List.isEmpty then .error .malformedColumnList
  else .ok names

/-- The name of the table and the text behind it. -/
def target (statement : Text) : Except Skip (Text × Text) :=
  match (phraseIn insertInto statement).bind fun place => tableName? (trimStart place.after) with
  | some named => .ok named
  | none => .error .missingTableName

/-- The column list at the start of `text`, blanks aside, and the text behind it. -/
def columnList (text : Text) : Except Skip (List Text × Text) :=
  let list := trimStart text
  if list.head? = some '(' then
    match findClosingParen list with
    | none => .error .unmatchedParen
    | some place => (columnNames place.before.tail).map fun names => (names, place.after)
  else .error .missingColumnList

/-- The rows, from VALUES or SELECT, whichever comes first. -/
def rowSource (text : Text) : Except Skip Source :=
  let values := phraseIn "values" text
  let select := phraseIn "select" text
  match values, select with
  | some list, none => .ok (.values (valueRows list.after))
  | some list, some query =>
    if list.before.length < query.before.length then .ok (.values (valueRows list.after))
    else .ok (ofQuery query)
  | none, some query => .ok (ofQuery query)
  | none, none => .error .noRowSource
where
  ofQuery (query : Found) : Source :=
    let body := trimEnd (dropEndWhile (· == ';') (trim (query.found ++ query.after)))
    .select (selectRows body) body

/-- Keeps the rows as wide as the column list. -/
def alignRows {catalog : Catalog} (table : catalog.Id) (columns : List Text) (source : Source) :
    Outcome catalog :=
  let kept := source.rows.filter fun row => row.length == columns.length
  let rejected := source.rows.countP fun row => row.length != columns.length && !isArtifact row
  if kept.isEmpty then .error .noRows
  else .ok ⟨table, columns, source.withRows kept, rejected⟩

/-- The table of that name; a `hint` admits only the table that it names. -/
def resolve (catalog : Catalog) (hint : Option Text) (name : Text) : Except Skip catalog.Id :=
  match (catalog.lookup name).filter fun id => hint.all (same (catalog.get id).name) with
  | some id => .ok id
  | none => .error (.unknownTable name)

def readInsert (catalog : Catalog) (hint : Option Text) (statement : Text) : Outcome catalog := do
  let (name, afterName) ← target statement
  let table ← resolve catalog hint name
  let (columns, body) ← columnList afterName
  let source ← rowSource body
  alignRows table columns source

/-- Every statement of SQL text that may hold comments. -/
def readScript (catalog : Catalog) (hint : Option Text) (sql : Text) : List (Outcome catalog) :=
  (statements (stripComments sql)).map (readInsert catalog hint)

end SeedCoverage.Sql

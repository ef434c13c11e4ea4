import SeedCoverage.Proofs.Case.Reading
import SeedCoverage.Proofs.Script.Extract
import SeedCoverage.Proofs.Statement.Head

/-! SQL text in lower case gives the same outcomes, with their texts in lower case. -/
namespace SeedCoverage.Sql

open Text

/-- The texts of a list in lower case. -/
def lowerAll (texts : List Text) : List Text := texts.map Text.lower

def Source.lower : Source → Source
  | .values rows => .values (rows.map lowerAll)
  | .select rows body => .select (rows.map lowerAll) (Text.lower body)

def Insert.lower {catalog : Catalog} (insert : Insert catalog) : Insert catalog :=
  { insert with columns := lowerAll insert.columns, source := insert.source.lower }

def Skip.lower : Skip → Skip
  | .unknownTable name => .unknownTable (Text.lower name)
  | other => other

/-- What is read, or why it cannot be, with its texts in lower case. -/
def lowerResult {α β : Type} (fold : α → β) (result : Except Skip α) : Except Skip β :=
  (result.map fold).mapError Skip.lower

def lowerOutcome {catalog : Catalog} : Outcome catalog → Outcome catalog := lowerResult Insert.lower

theorem lowerResult_bind {α β γ δ : Type} {foldFirst : α → β} {fold : γ → δ}
    {read : α → Except Skip γ} {next : β → Except Skip δ}
    (same : ∀ value, next (foldFirst value) = lowerResult fold (read value))
    (result : Except Skip α) :
    (lowerResult foldFirst result).bind next = lowerResult fold (result.bind read) := by
  cases result with
  | error skip => rfl
  | ok value => exact same value

variable {catalog : Catalog} {previous : Option Char} {delimiter : Char}

theorem stripFrom_lower (region : Region) (text : Text) :
    stripFrom region (lower text) = lower (stripFrom region text) := by
  fun_induction stripFrom region text with
  | case1 => rfl
  | case2 => rfl
  | case3 => rfl
  | case4 c other =>
    simp (disch := decide) only [lower_cons, lower_nil, stripFrom, toLower_eq_iff]
    rw [if_neg other]
  | case5 => rfl
  | case6 quote c d rest dashes ih =>
    simp (disch := decide) only [lower_cons, stripFrom, toLower_eq_iff]
    rw [if_pos dashes]
    exact ih
  | case7 quote c d rest other opens ih =>
    simp (disch := decide) only [lower_cons, stripFrom, toLower_eq_iff]
    rw [if_neg other, if_pos opens]
    exact congrArg (' ' :: ·) ih
  | case8 quote c d rest other third pair ih =>
    simp (disch := decide) only [lower_cons, stripFrom, toLower_eq_iff]
    rw [if_neg other, if_neg third, if_pos pair]
    exact congrArg (c.toLower :: d.toLower :: ·) ih
  | case9 quote c d rest other third single ih =>
    simp (disch := decide) only [lower_cons, stripFrom, toLower_eq_iff, Quote.read_lower]
    rw [if_neg other, if_neg third, if_neg single]
    exact congrArg (c.toLower :: ·) ih
  | case10 d rest ih => exact congrArg ('\n' :: ·) ih
  | case11 c d rest other ih =>
    simp (disch := decide) only [lower_cons, stripFrom, toLower_eq_iff]
    rw [if_neg other]
    exact ih
  | case12 c d rest closes ih =>
    simp (disch := decide) only [lower_cons, stripFrom, toLower_eq_iff]
    rw [if_pos closes]
    exact ih
  | case13 c d rest other ih =>
    simp (disch := decide) only [lower_cons, stripFrom, toLower_eq_iff]
    rw [if_neg other]
    exact ih

theorem seekInsert?_lower (text : Text) :
    seekInsert? (lower text) = (seekInsert? text).map lower := by
  induction text with
  | nil => rfl
  | cons c rest ih =>
    rw [lower_cons, seekInsert?_cons, seekInsert?_cons, ← lower_cons, startsWith_lower, ih]
    split <;> rfl

theorem statements_lower (text : Text) : statements (lower text) = lowerAll (statements text) := by
  fun_induction statements text with
  | case1 text absent => exact statements_absent (by rw [seekInsert?_lower, absent]; rfl)
  | case2 text found begins endless =>
    have begins' : seekInsert? (lower text) = some (lower found) := by
      rw [seekInsert?_lower, begins]
      rfl
    refine statements_endless begins' ?_
    rw [findStatementEnd_lower, endless]
    rfl
  | case3 text found begins place ends shorter ih =>
    have ends' : findStatementEnd (lower found) = some place.lower := by
      rw [findStatementEnd_lower, ends]
      rfl
    have begins' : seekInsert? (lower text) = some (lower found) := by
      rw [seekInsert?_lower, begins]
      rfl
    rw [statements_found begins' ends', lowerAll, List.map_cons, lower_append]
    exact congrArg _ ih

theorem cutPieces_lower (run : List Step) :
    cutPieces (run.map Step.lower) = lowerAll (cutPieces run) := by
  induction run with
  | nil => rfl
  | cons step rest ih =>
    rw [List.map_cons, cutPieces, cutPieces, ih]
    simp only [Step.lower, Lexeme.isCut_lower, Lexeme.text_lower]
    split
    · rfl
    · cases cutPieces rest with
      | nil => rfl
      | cons piece pieces => simp only [lowerAll, List.map_cons, lower_append]

theorem dropEmptyEnd_lower (pieces : List Text) :
    dropEmptyEnd (lowerAll pieces) = lowerAll (dropEmptyEnd pieces) := by
  have empty : List.isEmpty ∘ Text.lower = List.isEmpty := funext isEmpty_lower
  rw [dropEmptyEnd, lowerAll, ← List.map_reverse, List.dropWhile_map, empty, ← List.map_reverse]
  rfl

theorem splitTop_lower (plain : delimiter.isAlpha = false) (text : Text) :
    splitTop delimiter (lower text) = lowerAll (splitTop delimiter text) := by
  have signs : Signs (some delimiter) := by
    rintro sign member
    obtain rfl := Option.some.inj member
    exact plain
  have trims : trim ∘ lower = lower ∘ trim := funext trim_lower
  have read := scan_lower signs .start none text
  rw [Option.map_none] at read
  rw [splitTop, read, cutPieces_lower, splitTop, ← dropEmptyEnd_lower, lowerAll, lowerAll,
    List.map_map, List.map_map, trims]

theorem unionPieces_lower (previous : Option Char) (text : Text) :
    unionPieces (previous.map Char.toLower) (lower text) = lowerAll (unionPieces previous text) := by
  fun_induction unionPieces previous text with
  | case1 previous text absent =>
    exact unionPieces_absent (by rw [findPhrase_lower, absent]; rfl)
  | case2 previous text place found shorter ih =>
    have found' :
        findPhrase unionAll (previous.map Char.toLower) (lower text) = some place.lower := by
      rw [findPhrase_lower, found]
      rfl
    rw [unionPieces_found found', lowerAll, List.map_cons, ← lowerAll, ← ih, ← getLast?_lower]
    rfl

theorem unionClauses_lower (text : Text) :
    unionClauses (lower text) = lowerAll (unionClauses text) := by
  have pieces := unionPieces_lower none text
  rw [Option.map_none] at pieces
  have trims : trim ∘ lower = lower ∘ trim := funext trim_lower
  have filled : (fun clause : Text => !clause.isEmpty) ∘ lower = fun clause => !clause.isEmpty :=
    funext fun clause => congrArg (!·) (isEmpty_lower clause)
  rw [unionClauses, pieces, unionClauses, lowerAll, lowerAll, List.map_map, trims, ← List.map_map,
    List.filter_map, filled]

theorem isSign_caseBlind {sign : Char} (plain : sign.isAlpha = false) : CaseBlind (· == sign) :=
  fun _ => toLower_beq plain

theorem beforeFirst_lower (phrases : List Text) (previous : Option Char) (text : Text) :
    beforeFirst phrases (previous.map Char.toLower) (lower text) =
      lower (beforeFirst phrases previous text) := by
  have fronts (phrase : Text) :
      (findPhrase (words phrase) (previous.map Char.toLower) (lower text)).map Found.before =
        ((findPhrase (words phrase) previous text).map Found.before).map lower := by
    rw [findPhrase_lower, Option.map_map, Option.map_map]
    rfl
  simp only [beforeFirst, fronts, ← List.map_filterMap, List.foldl_map, length_lower]
  refine List.foldl_hom lower fun shortest place => ?_
  rw [length_lower]
  exact (apply_ite lower _ _ _).symm

theorem projection_lower (clause : Text) :
    projection (lower clause) = lowerAll (projection clause) := by
  rw [projection, projection, phraseIn_lower]
  cases phraseIn "select" clause with
  | none => rfl
  | some place =>
    have semicolons (text : Text) :
        splitTop ',' (dropEndWhile (· == ';') (trim (lower text))) =
          lowerAll (splitTop ',' (dropEndWhile (· == ';') (trim text))) := by
      rw [trim_lower, dropEndWhile_lower (isSign_caseBlind rfl), splitTop_lower rfl]
    simp only [Option.map_some, Found.lower, getLast?_lower, findPhrase_lower, beforeFirst_lower]
    cases findPhrase ["from"] place.found.getLast? place.after with
    | none => exact semicolons _
    | some source => exact semicolons _

theorem selectRows_lower (body : Text) :
    selectRows (lower body) = (selectRows body).map lowerAll := by
  have rows : projection ∘ lower = lowerAll ∘ projection := funext projection_lower
  have filled : (fun row : Row => !row.isEmpty) ∘ lowerAll = fun row => !row.isEmpty :=
    funext fun row => congrArg (!·) (List.isEmpty_map)
  rw [selectRows, unionClauses_lower, lowerAll, List.map_map, rows, ← List.map_map, List.filter_map,
    filled]
  rfl

theorem readsRelation_lower (body : Text) : readsRelation (lower body) = readsRelation body := by
  have reads (clause : Text) :
      (phraseIn "from" (lower clause)).isSome = (phraseIn "from" clause).isSome := by
    rw [phraseIn_lower, Option.isSome_map]
  rw [readsRelation, unionClauses_lower, lowerAll, List.any_map]
  exact congrArg _ (funext reads)

theorem stepsText_lower (run : List Step) :
    stepsText (run.map Step.lower) = lower (stepsText run) := by
  induction run with
  | nil => rfl
  | cons step rest ih =>
    simp only [stepsText, List.map_cons, List.flatMap_cons] at ih ⊢
    rw [ih, lower_append, ← Lexeme.text_lower]
    rfl

theorem groupTexts_lower (run : List Step) :
    groupTexts (run.map Step.lower) = lowerAll (groupTexts run) := by
  have closing : Step.closesAll ∘ Step.lower = Step.closesAll := funext Step.closesAll_lower
  have inside : (fun step : Step => !step.closesAll) ∘ Step.lower = fun step => !step.closesAll :=
    funext fun step => congrArg (!·) (Step.closesAll_lower step)
  induction run with
  | nil => rfl
  | cons step rest ih =>
    have opening : step.lower.opensRow = step.opensRow := by
      rw [Step.opensRow, Step.isChar_lower rfl]
      rfl
    rw [List.map_cons, groupTexts, groupTexts, opening, List.any_map, closing, List.takeWhile_map,
      inside, stepsText_lower, ih]
    split <;> rfl

theorem valueRows_lower (text : Text) : valueRows (lower text) = (valueRows text).map lowerAll := by
  have ending : (fun step : Step => !step.endsRows) ∘ Step.lower = fun step => !step.endsRows := by
    funext step
    rw [Function.comp_apply, Step.endsRows, Step.isChar_lower rfl]
    rfl
  have rows : splitTop ',' ∘ lower = lowerAll ∘ splitTop ',' :=
    funext fun text => splitTop_lower rfl text
  have read := scan_lower signs_none .start none text
  rw [Option.map_none] at read
  rw [valueRows, steps, read, List.takeWhile_map, ending, groupTexts_lower, lowerAll, List.map_map,
    rows, ← List.map_map]
  rfl

theorem isPartMark_caseBlind : CaseBlind isPartMark := by
  intro c
  simp (disch := decide) only [isPartMark, toLower_beq]

theorem columnNames_lower (list : Text) :
    columnNames (lower list) = lowerResult lowerAll (columnNames list) := by
  have names : (fun column => trim (dropEndWhile isPartMark (column.dropWhile isPartMark))) ∘ lower =
      lower ∘ fun column => trim (dropEndWhile isPartMark (column.dropWhile isPartMark)) := by
    funext column
    simp only [Function.comp_apply, dropWhile_lower isPartMark_caseBlind,
      dropEndWhile_lower isPartMark_caseBlind, trim_lower]
  have empty : List.isEmpty ∘ Text.lower = List.isEmpty := funext isEmpty_lower
  simp only [columnNames, splitTop_lower (show ','.isAlpha = false from rfl), lowerAll, List.map_map,
    names]
  rw [← List.map_map, List.isEmpty_map, List.any_map, empty]
  split
  · rfl
  · split <;> rfl

theorem columnList_lower (text : Text) :
    columnList (lower text) =
      lowerResult (fun (names, after) => (lowerAll names, lower after)) (columnList text) := by
  simp only [columnList, trimStart_lower, head?_lower_eq_some (show '('.isAlpha = false from rfl),
    findClosingParen_lower]
  split
  · cases findClosingParen (trimStart text) with
    | none => rfl
    | some place =>
      have tail : (lower place.before).tail = lower place.before.tail := List.map_tail.symm
      simp only [Option.map_some, Found.lower, tail, columnNames_lower]
      cases columnNames place.before.tail <;> rfl
  · rfl

theorem namePart?_lower (text : Text) :
    namePart? (lower text) = (namePart? text).map fun (part, rest) => (lower part, lower rest) := by
  cases text with
  | nil => rfl
  | cons c rest =>
    rw [lower_cons, namePart?, namePart?, isPartMark_caseBlind, isNameChar_caseBlind]
    split
    · rename_i mark
      have plain : c.toLower = c ∧ c.isAlpha = false := by
        rcases Bool.or_eq_true_iff.mp mark with double | back
        · obtain rfl := beq_iff_eq.mp double
          decide
        · obtain rfl := beq_iff_eq.mp back
          decide
      have other : CaseBlind (· != c) := fun d => toLower_bne plain.2
      rw [plain.1, dropWhile_lower other, takeWhile_lower other]
      cases rest.dropWhile (· != c) <;> rfl
    · rw [takeWhile_lower isNameChar_caseBlind, dropWhile_lower isNameChar_caseBlind]
      split <;> rfl

theorem tableName?_lower (text : Text) :
    tableName? (lower text) = (tableName? text).map fun (name, rest) => (lower name, lower rest) := by
  have undotted (rest : Text) (last : ∀ more, rest = '.' :: more → False) :
      (lower rest).head? ≠ some '.' := by
    rw [Ne, head?_lower_eq_some rfl, List.head?_eq_some_iff]
    rintro ⟨more, dot⟩
    exact last more dot
  fun_induction tableName? text with
  | case1 text absent => exact tableName?_absent (by rw [namePart?_lower, absent]; rfl)
  | case2 text part rest found ih =>
    have lowered : namePart? (lower text) = some (lower part, '.' :: lower rest) := by
      rw [namePart?_lower, found]
      rfl
    rw [tableName?_dot lowered, ih]
  | case3 text name rest last found blank =>
    have lowered : namePart? (lower text) = some (lower name, lower rest) := by
      rw [namePart?_lower, found]
      rfl
    rw [tableName?_last lowered (undotted rest last), trim_lower, isEmpty_lower, if_pos blank]
    rfl
  | case4 text name rest last found filled =>
    have lowered : namePart? (lower text) = some (lower name, lower rest) := by
      rw [namePart?_lower, found]
      rfl
    rw [tableName?_last lowered (undotted rest last), trim_lower, isEmpty_lower, if_neg filled]
    rfl

theorem target_lower (statement : Text) :
    target (lower statement) =
      lowerResult (fun (name, rest) => (lower name, lower rest)) (target statement) := by
  rw [target, target, phraseIn_lower]
  cases phraseIn insertInto statement with
  | none => rfl
  | some place =>
    simp only [Option.map_some, Option.bind_some, Found.lower, trimStart_lower, tableName?_lower]
    cases tableName? (trimStart place.after) <;> rfl

theorem ofQuery_lower (query : Found) :
    rowSource.ofQuery query.lower = (rowSource.ofQuery query).lower := by
  simp only [rowSource.ofQuery, Found.lower, ← lower_append, trim_lower,
    dropEndWhile_lower (isSign_caseBlind (show ';'.isAlpha = false from rfl)), trimEnd_lower,
    selectRows_lower, Source.lower]

theorem rowSource_lower (text : Text) :
    rowSource (lower text) = lowerResult Source.lower (rowSource text) := by
  rw [rowSource, rowSource, phraseIn_lower, phraseIn_lower]
  cases phraseIn "values" text with
  | none =>
    cases phraseIn "select" text with
    | none => rfl
    | some query => simp only [Option.map_none, Option.map_some, ofQuery_lower]; rfl
  | some list =>
    have listed :
        Source.values (valueRows list.lower.after) = (Source.values (valueRows list.after)).lower :=
      congrArg Source.values (valueRows_lower list.after)
    have first : list.lower.before.length = list.before.length := length_lower list.before
    cases phraseIn "select" text with
    | none => exact congrArg Except.ok listed
    | some query =>
      have second : query.lower.before.length = query.before.length := length_lower query.before
      simp only [Option.map_some, first, second, listed, ofQuery_lower]
      split <;> rfl

theorem isArtifact_lower (row : Row) : isArtifact (lowerAll row) = isArtifact row := by
  match row with
  | [] => rfl
  | [token] =>
    rw [lowerAll, List.map_singleton, isArtifact, trim_lower, same_lower, isArtifact]
  | _ :: _ :: _ => rfl

theorem Source.rows_lower (source : Source) : source.lower.rows = source.rows.map lowerAll := by
  cases source <;> rfl

theorem Source.withRows_lower (rows : List Row) (source : Source) :
    source.lower.withRows (rows.map lowerAll) = (source.withRows rows).lower := by
  cases source <;> rfl

theorem alignRows_lower (table : catalog.Id) (columns : List Text) (source : Source) :
    alignRows table (lowerAll columns) source.lower =
      lowerOutcome (alignRows table columns source) := by
  have wide (row : Row) : (lowerAll row).length = row.length := List.length_map Text.lower
  have keeps : (fun row : Row => row.length == (lowerAll columns).length) ∘ lowerAll =
      fun row => row.length == columns.length := by
    funext row
    rw [Function.comp_apply, wide, wide]
  have rejects :
      (fun row : Row => row.length != (lowerAll columns).length && !isArtifact row) ∘ lowerAll =
        fun row => row.length != columns.length && !isArtifact row := by
    funext row
    rw [Function.comp_apply, wide, wide, isArtifact_lower]
  simp only [alignRows, Source.rows_lower, List.filter_map, List.countP_map, keeps, rejects,
    List.isEmpty_map, Source.withRows_lower]
  split <;> rfl

theorem resolve_lower (hint : Option Text) (name : Text) :
    resolve catalog hint (lower name) = lowerResult id (resolve catalog hint name) := by
  have found : catalog.lookup (lower name) = catalog.lookup name := by
    rw [Catalog.lookup, findTable, Catalog.lookup, findTable]
    simp only [same_comm _ (lower name), same_lower, same_comm name]
  rw [resolve, resolve, found]
  split <;> rfl

theorem readInsert_lower (hint : Option Text) (statement : Text) :
    readInsert catalog hint (lower statement) = lowerOutcome (readInsert catalog hint statement) := by
  simp only [readInsert, bind, target_lower]
  refine lowerResult_bind (fun (name, afterName) => ?_) (target statement)
  simp only [resolve_lower]
  refine lowerResult_bind (fun table => ?_) (resolve catalog hint name)
  simp only [columnList_lower]
  refine lowerResult_bind (fun (columns, body) => ?_) (columnList afterName)
  simp only [rowSource_lower]
  exact lowerResult_bind (alignRows_lower table columns) (rowSource body)

/-- In lower case a script has the same outcomes. -/
theorem readScript_lower (hint : Option Text) (sql : Text) :
    readScript catalog hint (lower sql) = (readScript catalog hint sql).map lowerOutcome := by
  have outcomes : readInsert catalog hint ∘ lower = lowerOutcome ∘ readInsert catalog hint :=
    funext (readInsert_lower hint)
  rw [readScript, stripComments, stripFrom_lower, statements_lower, lowerAll, List.map_map, outcomes,
    ← List.map_map]
  rfl

end SeedCoverage.Sql

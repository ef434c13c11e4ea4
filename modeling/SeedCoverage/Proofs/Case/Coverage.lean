import SeedCoverage.Proofs.Case.Statement
import SeedCoverage.Proofs.Coverage.Fold

/-! Letter case changes no count. A statement in lower case has rows as complete as before, and
follows the same table. -/
namespace SeedCoverage

open Text Sql

namespace Sql

theorem unescape?_lower (text : Text) :
    unescape? (lower text) =
      (unescape? text).map fun (content, after) => (lower content, lower after) := by
  fun_induction unescape? text with
  | case1 => rfl
  | case2 => rfl
  | case3 c other =>
    simp (disch := decide) only [lower_cons, lower_nil, unescape?, toLower_eq_iff]
    rw [if_neg other]
    rfl
  | case4 rest ih =>
    have later : unescape? (lower ('\'' :: '\'' :: rest)) =
        (unescape? (lower rest)).map fun (content, after) => ('\'' :: content, after) := rfl
    rw [later, ih, Option.map_map, Option.map_map]
    rfl
  | case5 d rest single =>
    simp (disch := decide) only [lower_cons, unescape?, toLower_eq_iff]
    rw [if_neg single]
    rfl
  | case6 c d rest other ih =>
    simp (disch := decide) only [lower_cons, unescape?, toLower_eq_iff] at ih ⊢
    rw [if_neg other, ih, Option.map_map, Option.map_map]
    rfl

theorem literalContent?_lower (token : Text) :
    literalContent? (lower token) = (literalContent? token).map lower := by
  rw [literalContent?, trim_lower, literalContent?]
  cases trim token with
  | nil => rfl
  | cons c body =>
    by_cases quoted : c = '\''
    · subst c
      have lowered : lower ('\'' :: body) = '\'' :: lower body := rfl
      simp only [lowered, unescape?_lower]
      cases unescape? body with
      | none => rfl
      | some parts =>
        have casts (text : Text) :
            ((lower text).take 2 == [':', ':']) = (text.take 2 == [':', ':']) := by
          rw [take_lower, Bool.eq_iff_iff, beq_iff_eq, beq_iff_eq, lower_eq_iff (by decide)]
        simp only [Option.map_some, bind, Option.bind_some, trimStart_lower, isEmpty_lower, casts]
        split <;> rfl
    · have other : c.toLower ≠ '\'' := by rwa [Ne, toLower_eq_iff rfl]
      rw [lower_cons]
      split
      · rename_i lowered
        exact absurd (List.cons.inj lowered).1 other
      · split
        · rename_i same
          exact absurd (List.cons.inj same).1 quoted
        · rfl

theorem isPresent_lower (token : Text) : isPresent (lower token) = isPresent token := by
  have null : isNull (lower token) = isNull token := by rw [isNull, trim_lower, same_lower, isNull]
  rw [isPresent, blank_lower, null, literalContent?_lower, isPresent]
  cases literalContent? token with
  | none => rfl
  | some content => simp only [Option.map_some, blank_lower]

theorem Insert.leader?_lower {catalog : Catalog} (insert : Insert catalog) :
    insert.lower.leader? = insert.leader? := by
  rcases insert with ⟨table, columns, source, rejected⟩
  cases source with
  | values rows => rfl
  | select rows body =>
    exact congrArg (fun reads => if reads then catalog.parentOf table else none)
      (readsRelation_lower body)

end Sql

theorem missingFields_lower (required columns : List Text) (row : Row) :
    missingFields required (lowerAll columns) (lowerAll row) =
      missingFields required columns row := by
  have named (field : Text) :
      (fun column => same column field) ∘ lower = fun column => same column field :=
    funext fun column => same_lower column field
  have value (place : Option Nat) :
      (place.bind ((row.map lower)[·]?)).any isPresent = (place.bind (row[·]?)).any isPresent := by
    cases place with
    | none => rfl
    | some place =>
      simp only [Option.bind_some, List.getElem?_map, Option.any_map, isPresent_lower]
  simp only [missingFields, lowerAll, List.findIdx?_map, named, value]

theorem verdicts_lower (required columns : List Text) (rows : List Row) :
    verdicts required (lowerAll columns) (rows.map lowerAll) = verdicts required columns rows := by
  have data : (fun verdict : Row × Nat => !isArtifact verdict.1) ∘ Prod.map lowerAll id =
      fun verdict => !isArtifact verdict.1 :=
    funext fun verdict => congrArg (!·) (isArtifact_lower verdict.1)
  rw [verdicts, List.zipIdx_map, List.filter_map, data, List.map_map, verdicts]
  exact List.map_congr_left fun verdict _ =>
    congrArg (verdict.2, ·) (missingFields_lower required columns verdict.1)

namespace Tally

variable {catalog : Catalog}

theorem fold_lower (tally : Tally catalog) (insert : Insert catalog) (origin : Text)
    (statement : Nat) :
    tally.fold insert.lower origin statement = tally.fold insert origin statement := by
  have judged : insert.lower.judged = insert.judged := by
    rw [Insert.judged, Insert.rows, Insert.lower, Source.rows_lower]
    exact verdicts_lower _ insert.columns insert.rows
  have gained : tally.gain insert.lower = tally.gain insert := by
    rw [gain, gain, Insert.leader?_lower, judged]
  have staked : tally.stake insert.lower = tally.stake insert := by
    rw [stake, stake, Insert.leader?_lower]
  rw [fold_eq_enter, gained, judged, staked, fold_eq_enter]
  rfl

theorem foldOutcome_lower (tally : Tally catalog) (origin : Text) (statement : Nat)
    (outcome : Outcome catalog) :
    tally.foldOutcome origin statement (lowerOutcome outcome) =
      tally.foldOutcome origin statement outcome := by
  cases outcome with
  | ok insert => exact tally.fold_lower insert origin statement
  | error skip => rfl

theorem foldAll_lower (tally : Tally catalog) (origin : Text) (outcomes : List (Outcome catalog)) :
    tally.foldAll origin (outcomes.map lowerOutcome) = tally.foldAll origin outcomes := by
  rw [foldAll, List.zipIdx_map, List.foldl_map]
  simp only [Prod.map_fst, Prod.map_snd, id, foldOutcome_lower]
  rfl

/-- Two scripts that differ in the case of their letters alone have one report. -/
theorem report_ignores_case (catalog : Catalog) (origin : Text) {left right : Text}
    (same : lower left = lower right) :
    ((start catalog true).foldAll origin (readScript catalog none left)).report =
      ((start catalog true).foldAll origin (readScript catalog none right)).report := by
  rw [← foldAll_lower _ _ (readScript catalog none left), ← readScript_lower, same, readScript_lower,
    foldAll_lower]

theorem report_mixed_case :
    let left : Text := "INSERT INTO items (name, icon) VALUES ('SWORD', NULL);"
    let right : Text := "insert into Items (NAME, Icon) Values ('Sword', null);"
    lower left = lower right ∧
      ((start .builtin true).foldAll "a.sql" (readScript .builtin none left)).report =
        ((start .builtin true).foldAll "a.sql" (readScript .builtin none right)).report :=
  have same : lower "INSERT INTO items (name, icon) VALUES ('SWORD', NULL);" =
      lower "insert into Items (NAME, Icon) Values ('Sword', null);" := by decide +kernel
  ⟨same, report_ignores_case .builtin "a.sql" same⟩

end Tally
end SeedCoverage

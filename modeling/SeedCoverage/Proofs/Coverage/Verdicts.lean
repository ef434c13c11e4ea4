import SeedCoverage.Proofs.Coverage.Counts
import SeedCoverage.Proofs.Statement.Record

/-! What is found of the rows of a statement. A record is complete where each required field finds its
first column with a string in it that is not blank. -/
namespace SeedCoverage

open Text Sql

/-- What a record holds for a field: the value of the first column of that name. -/
def Sql.Record.value? (columns : List Text) (record : Record) (field : Text) : Option Text :=
  ((columns.zip record).find? fun entry => same entry.1 field).bind Prod.snd

/-- Every required field has a string that is not blank. -/
def Sql.Record.complete (required columns : List Text) (record : Record) : Bool :=
  required.all fun field => (record.value? columns field).any fun content => !blank content

/-- Looking up by the place of a name is looking up in the pairs of names and values. -/
theorem findIdx?_bind {α : Type} (names : Text → Bool) (columns : List Text) (row : List α) :
    (columns.findIdx? names).bind (row[·]?) =
      ((columns.zip row).find? fun entry => names entry.1).map Prod.snd := by
  induction columns generalizing row with
  | nil => rfl
  | cons column columns ih =>
    cases row with
    | nil => simp
    | cons value row =>
      cases here : names column with
      | true => simp [List.findIdx?_cons, here]
      | false => simpa [List.findIdx?_cons, here, Option.bind_map, Function.comp_def] using ih row

/-- A field of a record is there if its value is a string that is not blank. -/
theorem isPresent_renderRecord (columns : List Text) (record : Record) (field : Text) :
    ((columns.findIdx? fun column => same column field).bind
      ((renderRecord record)[·]?)).any isPresent =
      (record.value? columns field).any fun content => !blank content := by
  rw [findIdx?_bind (same · field), renderRecord, List.zip_map_right, List.find?_map, Record.value?]
  simp only [Function.comp_def, Prod.map_fst, id_eq, Option.map_map, Prod.map_snd]
  cases (columns.zip record).find? fun entry => same entry.1 field with
  | none => rfl
  | some entry => simp [isPresent_renderValue]

theorem missingFields_renderRecord (required columns : List Text) (record : Record) :
    (missingFields required columns (renderRecord record)).isEmpty =
      record.complete required columns := by
  rw [missingFields, Record.complete, Bool.eq_iff_iff]
  simp [isPresent_renderRecord]

theorem verdicts_fields (required columns : List Text) (rows : List Row) :
    (verdicts required columns rows).map Prod.snd =
      (rows.filter fun row => !isArtifact row).map (missingFields required columns) := by
  have places : ((rows.zipIdx 1).filter fun entry => !isArtifact entry.1).map Prod.fst =
      rows.filter fun row => !isArtifact row := by
    have whole := List.filter_map (f := Prod.fst) (p := fun row => !isArtifact row)
      (l := rows.zipIdx 1)
    rw [List.zipIdx_map_fst] at whole
    exact whole.symm
  rw [← places, verdicts, List.map_map, List.map_map]
  rfl

/-- Rows count by themselves unless they are the target of a conflict. -/
theorem ofVerdicts_verdicts (required columns : List Text) (rows : List Row) :
    Count.ofVerdicts (verdicts required columns rows) =
      ⟨.ofNat (rows.countP fun row => !isArtifact row),
        .ofNat (rows.countP fun row =>
          !isArtifact row && (missingFields required columns row).isEmpty)⟩ := by
  rw [Count.ofVerdicts_fields, verdicts_fields, List.length_map, List.countP_map, List.countP_filter,
    ← List.countP_eq_length_filter]
  refine congrArg (Count.mk _ ∘ UInt64.ofNat) (List.countP_congr fun row _ => ?_)
  simp [and_comm]

/-- One row more makes no difference just where it is the target of a conflict. -/
theorem ofVerdicts_concat_eq_iff (required columns : List Text) (rows : List Row) (row : Row) :
    Count.ofVerdicts (verdicts required columns (rows ++ [row])) =
      Count.ofVerdicts (verdicts required columns rows) ↔ isArtifact row = true := by
  rw [ofVerdicts_verdicts, ofVerdicts_verdicts, List.countP_append, List.countP_append]
  cases artifact : isArtifact row <;> simp [UInt64.ofNat_add, artifact]

theorem ofVerdicts_records (required columns : List Text) (records : List Record) :
    Count.ofVerdicts (verdicts required columns (records.map renderRecord)) =
      ⟨.ofNat records.length, .ofNat (records.countP (Record.complete required columns))⟩ := by
  have data (record : Record) : isArtifact (renderRecord record) = false :=
    isArtifact_renderValue record
  rw [ofVerdicts_verdicts, List.countP_map, List.countP_map]
  simp [Function.comp_def, data, missingFields_renderRecord]

end SeedCoverage

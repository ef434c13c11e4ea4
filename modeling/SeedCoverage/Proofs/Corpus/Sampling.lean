import Mathlib.Data.List.Basic
import SeedCoverage.Corpus.Scan
import SeedCoverage.Proofs.Statement.Align

/-! Sampling against reading everything. A hint passes over statements about other tables and changes no
other one, and what is left of the limit behind each file is what is left of the list of all samples. -/
namespace SeedCoverage

open Text Sql Files

variable {catalog : Catalog}

namespace Corpus

/-- The statements of a script that are read without a hint, and that are about a table. -/
def statementsAbout (catalog : Catalog) (table sql : Text) : List (Insert catalog) :=
  ((readScript catalog none sql).filterMap Except.toOption).filter fun insert =>
    same (catalog.get insert.table).name table

/-- Every statement about a table in the files that can be read, each with the path of its file. -/
def allSamples (tree : FileTree) (catalog : Catalog) (table : Text) (paths : List Text) :
    List (Render.Sample catalog) :=
  paths.flatMap fun path =>
    match tree.readText path with
    | .ok sql => (statementsAbout catalog table sql).map (Render.Sample.mk path)
    | .error _ => []

variable (tree : FileTree) (table : Text)

theorem readScript_hint (catalog : Catalog) (table sql : Text) :
    (readScript catalog (some table) sql).filterMap Except.toOption =
      statementsAbout catalog table sql := by
  rw [statementsAbout, readScript, readScript, List.filterMap_map, List.filterMap_map,
    List.filter_filterMap]
  refine List.filterMap_congr fun statement _ => Option.ext fun insert => ?_
  have read (hint : Option Text) :
      (readInsert catalog hint statement).toOption = some insert ↔
        readInsert catalog hint statement = .ok insert := by
    cases readInsert catalog hint statement <;> simp [Except.toOption]
  rw [Option.filter_eq_some_iff]
  exact (read _).trans (readInsert_hint.trans (and_congr_left' (read _).symm))

theorem samplesOf_eq (catalog : Catalog) (path : Text) :
    samplesOf tree catalog table path = allSamples tree catalog table [path] := by
  rw [allSamples, List.flatMap_singleton, samplesOf]
  cases tree.readText path with
  | error fault => rfl
  | ok sql =>
    dsimp only
    rw [← readScript_hint, List.map_filterMap]

/-- Sampling gives the first of all the samples there are. -/
theorem sample_eq_take (catalog : Catalog) (limit : Nat) (paths : List Text) :
    sample tree catalog table limit paths = (allSamples tree catalog table paths).take limit := by
  induction paths generalizing limit with
  | nil => exact List.take_nil.symm
  | cons path rest ih =>
    have whole : allSamples tree catalog table (path :: rest) =
        samplesOf tree catalog table path ++ allSamples tree catalog table rest := by
      rw [samplesOf_eq, allSamples, allSamples, allSamples, List.flatMap_singleton, List.flatMap_cons]
    rw [sample]
    split
    · rename_i none_left
      rw [none_left, List.take_zero]
    · -- what is left behind the samples of the file is the same, whether it has too many or too few
      have left : limit - ((samplesOf tree catalog table path).take limit).length =
          limit - (samplesOf tree catalog table path).length := by
        rw [List.length_take]
        omega
      rw [whole, List.take_append, ← ih, ← left]

end Corpus
end SeedCoverage

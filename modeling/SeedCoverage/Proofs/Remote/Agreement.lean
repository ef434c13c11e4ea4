import Mathlib
import SeedCoverage.Proofs.Corpus.Dataset
import SeedCoverage.Proofs.Coverage.Gaps
import SeedCoverage.Proofs.Remote.Paging

/-! The same records in a script and in a remote store. A script writes its values as SQL and a store
answers with JSON; both come to the same counts, and to the same missing fields. -/
namespace SeedCoverage.Remote

open Text Sql

/-- A value as a store has it. -/
def valueJson : Option Text → Json
  | none => .null
  | some content => .string content

theorem isPresent_valueJson (value : Option Text) :
    (valueJson value).isPresent = value.any fun content => !blank content := by
  cases value <;> rfl

/-- The object has the columns of a record for its keys, in any order, and their values. -/
def Holds (columns : List Text) (record : Sql.Record) (object : Record) : Prop :=
  object.Perm (columns.zip (record.map valueJson))

variable {columns : List Text} {record : Sql.Record} {object : Record}

/-- A field of an object is the column of the record. No key stands twice, so their order and the
direction of the search do not matter. -/
theorem Holds.member? (held : Holds columns record object) (width : record.length = columns.length)
    (distinct : columns.Nodup) (field : Text) :
    Json.member? object field =
      ((columns.zip record).find? fun entry => entry.1 == field).map fun entry =>
        valueJson entry.2 := by
  have perm := (List.reverse_perm object).trans held
  have keys : (object.reverse.map Prod.fst).Nodup := by
    rw [(perm.map Prod.fst).nodup_iff, List.map_fst_zip (by simp [width])]
    exact distinct
  have once : {entry ∈ object.reverse | entry.1 == field}.Subsingleton := by
    intro entry first other second
    exact List.inj_on_of_nodup_map keys first.1 second.1
      ((beq_iff_eq.mp first.2).trans (beq_iff_eq.mp second.2).symm)
  rw [Json.member?, List.find?_eq_find?_of_perm perm once, List.zip_map_right, List.find?_map,
    Option.map_map]
  rfl

/-- Where no two of the required fields have one name, letter case aside, a column answers to its own
name only. -/
theorem same_required {required : List Text}
    (differ : required.Pairwise fun first second => same first second = false)
    {column field : Text} (tracked : column ∈ required) (wanted : field ∈ required) :
    same column field = (column == field) := by
  by_cases equal : column = field
  · rw [equal, same_refl, beq_self_eq_true]
  · have symmetric : Std.Symm fun first second => same first second = false :=
      ⟨fun first second => (same_comm second first).trans⟩
    rw [differ.forall tracked wanted equal]
    exact (beq_eq_false_iff_ne.mpr equal).symm

theorem Holds.missing {spec : TableSpec} (held : Holds columns record object)
    (width : record.length = columns.length) (distinct : columns.Nodup)
    (tracked : ∀ column ∈ columns, column ∈ spec.required)
    (differ : spec.required.Pairwise fun first second => same first second = false) :
    missingIn spec object = missingFields spec.required columns (renderRecord record) := by
  refine List.filter_congr fun field wanted => ?_
  have value : record.value? columns field =
      ((columns.zip record).find? fun entry => entry.1 == field).bind Prod.snd := by
    refine congrArg (Option.bind · Prod.snd) (List.find?_congr fun entry member => ?_)
    exact same_required differ (tracked _ (List.of_mem_zip member).1) wanted
  rw [held.member? width distinct, isPresent_renderRecord, value]
  cases (columns.zip record).find? fun entry => entry.1 == field with
  | none => rfl
  | some entry => rw [Option.map_some, Option.any_some, isPresent_valueJson]; rfl

theorem map_missing {spec : TableSpec} {records : List Sql.Record} {objects : List Record}
    (held : List.Forall₂ (Holds columns) records objects)
    (widths : ∀ record ∈ records, record.length = columns.length) (distinct : columns.Nodup)
    (tracked : ∀ column ∈ columns, column ∈ spec.required)
    (differ : spec.required.Pairwise fun first second => same first second = false) :
    objects.map (missingIn spec) =
      (records.map renderRecord).map (missingFields spec.required columns) := by
  induction held with
  | nil => rfl
  | cons first _ ih =>
    have width := widths _ List.mem_cons_self
    have later := ih fun record member => widths record (List.mem_cons_of_mem _ member)
    rw [List.map_cons, first.missing width distinct tracked differ, later]
    rfl

variable {catalog : Catalog}

/-- A statement of records is counted record by record, and what they lack is kept. -/
theorem foldAll_statement (dataset : Corpus.Dataset catalog) (tracking : Bool) (origin : Text) :
    let tally := (Tally.start catalog tracking).foldAll origin
      (readScript catalog none (script [dataset.statement]))
    tally.count dataset.table = .ofVerdicts dataset.insert.judged ∧
      tally.gaps.map Gap.fields =
        if tracking then (dataset.insert.judged.map Prod.snd).filter fun fields => !fields.isEmpty
        else [] := by
  have alone : dataset.insert.leader? = none := rfl
  have read : readScript catalog none (script [dataset.statement]) = [.ok dataset.insert] :=
    Corpus.readScript_datasets [dataset]
  have one : (Tally.start catalog tracking).foldAll origin [.ok dataset.insert] =
      (Tally.start catalog tracking).fold dataset.insert origin 1 := rfl
  rw [read, one]
  constructor
  · have gained : (Tally.start catalog tracking).gain dataset.insert =
        .ofVerdicts dataset.insert.judged := by
      rw [Tally.gain, alone]
    have opened : ((Tally.start catalog tracking).opened dataset.insert).count dataset.table = {} :=
      Tally.count_start tracking dataset.table
    rw [Tally.fold_eq_enter, Tally.count_enter, gained]
    refine (if_pos rfl).trans ?_
    rw [opened, Count.zero_plus]
  · obtain ⟨_, gaps⟩ := (Tally.start catalog tracking).fold_gaps dataset.insert origin 1
    have fields := (Tally.start catalog tracking).news_fields alone origin 1
    rw [gaps, List.map_append, apply_ite (List.map Gap.fields), fields]
    rfl

theorem judged_fields {dataset : Corpus.Dataset catalog} {objects : List Record}
    (held : List.Forall₂ (Holds dataset.columns) dataset.records objects)
    (distinct : dataset.columns.Nodup)
    (tracked : ∀ column ∈ dataset.columns, column ∈ (catalog.get dataset.table).required)
    (differ : (catalog.get dataset.table).required.Pairwise fun first second =>
      same first second = false) :
    dataset.insert.judged.map Prod.snd = objects.map (missingIn (catalog.get dataset.table)) := by
  have data : (dataset.records.map renderRecord).filter (fun row => !isArtifact row) =
      dataset.records.map renderRecord := by
    refine List.filter_eq_self.mpr fun row member => ?_
    obtain ⟨record, _, rfl⟩ := List.mem_map.mp member
    rw [renderRecord, isArtifact_renderValue]
    rfl
  have judged : dataset.insert.judged.map Prod.snd =
      ((dataset.records.map renderRecord).filter fun row => !isArtifact row).map
        (missingFields (catalog.get dataset.table).required dataset.columns) :=
    verdicts_fields _ _ _
  rw [judged, data, map_missing held dataset.widths distinct tracked differ]

/-- A script and a store that have the same records come to the same count, in which every record counts
for what it holds, and they find the same fields missing in the same order, however the store cuts its
records into pages. -/
theorem script_agrees_with_store {dataset : Corpus.Dataset catalog} {objects : List Record}
    (held : List.Forall₂ (Holds dataset.columns) dataset.records objects)
    (distinct : dataset.columns.Nodup)
    (tracked : ∀ column ∈ dataset.columns, column ∈ (catalog.get dataset.table).required)
    (differ : (catalog.get dataset.table).required.Pairwise fun first second =>
      same first second = false)
    {server : Server} {client : Client}
    (serves : Serves server client (catalog.get dataset.table) objects) (tracking : Bool)
    (origin : Text) {budget : Nat} (enough : dataset.records.length < budget) :
    ∃ scan session,
      fetchTable server client (catalog.get dataset.table) tracking budget =
          some (.ok scan, session) ∧
        scan.row.count = ⟨.ofNat dataset.records.length, .ofNat (dataset.records.countP
          (Record.complete (catalog.get dataset.table).required dataset.columns))⟩ ∧
        let tally := (Tally.start catalog tracking).foldAll origin
          (readScript catalog none (script [dataset.statement]))
        tally.count dataset.table = scan.row.count ∧
          tally.gaps.map Gap.fields = scan.gaps.map Gap.fields := by
  obtain ⟨pages, requests, _, flat, fetched⟩ := serves.fetched tracking (held.length_eq ▸ enough)
  obtain ⟨count, gaps⟩ := foldAll_statement dataset tracking origin
  have fields := judged_fields held distinct tracked differ
  have stored := verdictsOf_fields (catalog.get dataset.table) pages
  rw [flat, ← fields] at stored
  have agree : Count.ofVerdicts dataset.insert.judged =
      Count.plus {} (Count.ofVerdicts (verdictsOf (catalog.get dataset.table) pages)) := by
    rw [Count.zero_plus, Count.ofVerdicts_fields, ← stored, ← Count.ofVerdicts_fields]
  refine ⟨_, _, fetched, agree.symm.trans (ofVerdicts_records _ _ _), count.trans agree,
    gaps.trans ?_⟩
  rw [← stored, ← gapsFrom_fields _ 1]
  cases tracking <;> rfl

/-- Two translations, one with an apostrophe in it and one that is hardly there. -/
def twoTranslations : Corpus.Dataset .builtin where
  table := ⟨1, by decide⟩
  columns := ["locale", "item_id", "name", "description"]
  records := [[some "fr", some "7", some "L'arc", some "NULL"], [none, some "8", some " ", some ""]]
  some_column := by decide
  identifiers := by decide
  some_record := by decide
  widths := by decide

/-- The same translations as a store has them. -/
def translationObjects : List Record := [
  [("item_id", .string "7"), ("locale", .string "fr"), ("name", .string "L'arc"),
    ("description", .string "NULL")],
  [("locale", .null), ("item_id", .string "8"), ("name", .string " "), ("description", .string "")]]

def translationStore : Server :=
  capped localClient (Catalog.builtin.get twoTranslations.table) translationObjects 1

set_option maxRecDepth 10000 in
theorem twoTranslations_agree :
    List.Forall₂ (Holds twoTranslations.columns) twoTranslations.records translationObjects ∧
      Serves translationStore localClient (Catalog.builtin.get twoTranslations.table)
        translationObjects ∧
      ∃ scan session,
        fetchTable translationStore localClient (Catalog.builtin.get twoTranslations.table) true 3 =
            some (.ok scan, session) ∧
          scan.row.count = ⟨2, 1⟩ ∧
          let tally := (Tally.start .builtin true).foldAll "seed.sql"
            (readScript .builtin none (script [twoTranslations.statement]))
          tally.count twoTranslations.table = ⟨2, 1⟩ ∧
            tally.gaps.map Gap.fields = scan.gaps.map Gap.fields := by
  have held : List.Forall₂ (Holds twoTranslations.columns) twoTranslations.records
      translationObjects :=
    .cons (List.Perm.swap _ _ _) (.cons (List.Perm.refl _) .nil)
  have serves : Serves translationStore localClient (Catalog.builtin.get twoTranslations.table)
      translationObjects := by
    apply Serves.of_capped (by decide)
    · decide +kernel
    · intro offset within
      have cases : offset = 0 ∨ offset = 1 ∨ offset = 2 := by
        have size : translationObjects.length = 2 := rfl
        omega
      rcases cases with rfl | rfl | rfl <;> cbv
  obtain ⟨scan, session, fetched, counted, count, gaps⟩ := script_agrees_with_store held (by decide)
    (by decide) (by decide +kernel) serves true "seed.sql"
    (show twoTranslations.records.length < 3 by decide)
  have figures : scan.row.count = ⟨2, 1⟩ := counted.trans (by decide +kernel)
  exact ⟨held, serves, scan, session, fetched, figures, count.trans figures, gaps⟩

end SeedCoverage.Remote

import Mathlib.Data.List.Pairwise
import SeedCoverage.Catalog

/-! Which declarations are consistent. That no two names are the same makes the first match the only one,
and a parent of another spelling another table. -/
namespace SeedCoverage

open Text

/-- An ASCII letter or an underscore. -/
def IsLetter (c : Char) : Prop := ('A' ≤ c ∧ c ≤ 'Z') ∨ ('a' ≤ c ∧ c ≤ 'z') ∨ c = '_'

/-- A letter, then letters and digits. -/
def IsIdentifier (text : Text) : Prop :=
  ∃ c rest, text = c :: rest ∧ IsLetter c ∧ ∀ d ∈ rest, IsLetter d ∨ ('0' ≤ d ∧ d ≤ '9')

/-- A declaration that is right by itself. -/
structure TableSpec.WellFormed (spec : TableSpec) : Prop where
  labelled : ∃ c ∈ spec.label, isBlank c = false
  named : IsIdentifier spec.name
  filled : spec.required ≠ []
  fields : ∀ field ∈ spec.required, IsIdentifier field

/-- No name is declared twice, letter case aside. -/
def Distinct (tables : List TableSpec) : Prop :=
  tables.Pairwise fun one other => same one.name other.name = false

/-- An entry that follows a table follows another entry, by a name of any letter case. -/
def FollowsAnother (tables : List TableSpec) (id : Fin tables.length) : Prop :=
  ∀ name, (tables.get id).follows = some name →
    ∃ parent, parent ≠ id ∧ same (tables.get parent).name name = true

/-- Declarations that are right by themselves and beside each other. -/
structure Consistent (tables : List TableSpec) : Prop where
  filled : tables ≠ []
  each : ∀ spec ∈ tables, spec.WellFormed
  distinct : Distinct tables
  parents : ∀ id, FollowsAnother tables id

variable {tables earlier later : List TableSpec} {spec : TableSpec} {name : Text}

section Declarations

theorem isLetter_iff {c : Char} : (c.isAlpha || c == '_') = true ↔ IsLetter c := by
  delta Char.isAlpha Char.isUpper Char.isLower IsLetter
  simp only [Char.le_def, Bool.or_eq_true, Bool.and_eq_true, decide_eq_true_eq, beq_iff_eq, or_assoc]

theorem isIdentifier_iff {text : Text} : isIdentifier text = true ↔ IsIdentifier text := by
  have letter_or_digit (d : Char) :
      (d.isAlphanum || d == '_') = true ↔ IsLetter d ∨ ('0' ≤ d ∧ d ≤ '9') := by
    rw [← isLetter_iff]
    delta Char.isAlphanum Char.isDigit
    simp only [Char.le_def, Bool.or_eq_true, Bool.and_eq_true, decide_eq_true_eq]
    exact or_right_comm
  cases text with
  | nil => simp [isIdentifier, IsIdentifier]
  | cons c rest =>
    rw [isIdentifier, Bool.and_eq_true, isLetter_iff, List.all_eq_true]
    simp only [letter_or_digit]
    constructor
    · rintro ⟨first, others⟩
      exact ⟨c, rest, rfl, first, others⟩
    · rintro ⟨_, _, ⟨⟩, first, others⟩
      exact ⟨first, others⟩

/-- A declaration is at fault unless it is labelled, named and required by identifiers, and new. -/
theorem TableSpec.fault?_eq_none {earlier : List TableSpec} {spec : TableSpec} :
    spec.fault? earlier = none ↔
      blank spec.label = false ∧ isIdentifier spec.name = true ∧ spec.required ≠ [] ∧
        (∀ field ∈ spec.required, isIdentifier field = true) ∧
          ∀ other ∈ earlier, same other.name spec.name = false := by
  unfold TableSpec.fault?
  split
  · simp_all
  · split
    · simp_all
    · split
      · simp_all
      · split
        · rename_i field found
          have bad := List.find?_some found
          have member := List.mem_of_find?_eq_some found
          simp_all
          grind
        · rename_i none_found
          simp_all

theorem TableSpec.fault?_eq_none_iff :
    spec.fault? earlier = none ↔
      spec.WellFormed ∧ ∀ other ∈ earlier, same other.name spec.name = false := by
  simp only [fault?_eq_none, isIdentifier_iff, blank, List.all_eq_false, Bool.not_eq_true]
  constructor
  · rintro ⟨labelled, named, filled, fields, new⟩
    exact ⟨⟨labelled, named, filled, fields⟩, new⟩
  · rintro ⟨⟨labelled, named, filled, fields⟩, new⟩
    exact ⟨labelled, named, filled, fields, new⟩

theorem declarationFault?_eq_none_iff :
    declarationFault? earlier later = none ↔
      (∀ spec ∈ later, spec.WellFormed) ∧ Distinct later ∧
        ∀ one ∈ earlier, ∀ other ∈ later, same one.name other.name = false := by
  induction later generalizing earlier with
  | nil => simp [declarationFault?, Distinct]
  | cons spec later ih =>
    rw [declarationFault?, Option.or_eq_none_iff, TableSpec.fault?_eq_none_iff, ih]
    simp only [List.forall_mem_append, List.forall_mem_singleton]
    simp only [Distinct, List.pairwise_cons, List.forall_mem_cons]
    constructor
    · rintro ⟨⟨first, new⟩, others, distinct, earlierNew, specNew⟩
      exact ⟨⟨first, others⟩, ⟨specNew, distinct⟩,
        fun one member => ⟨new one member, earlierNew one member⟩⟩
    · rintro ⟨⟨first, others⟩, ⟨specNew, distinct⟩, apart⟩
      exact ⟨⟨first, fun one member => (apart one member).1⟩, others, distinct,
        fun one member => (apart one member).2, specNew⟩

end Declarations

section Lookup

theorem Distinct.eq_of_same (distinct : Distinct tables) {one other : Fin tables.length}
    (equal : same (tables.get one).name (tables.get other).name = true) : one = other := by
  have apart := List.pairwise_iff_get.mp distinct
  rcases Nat.lt_trichotomy one other with before | here | behind
  · rw [apart one other before] at equal
    cases equal
  · exact Fin.ext here
  · rw [same_comm, apart other one behind] at equal
    cases equal

theorem Distinct.findTable_eq_some (distinct : Distinct tables) {id : Fin tables.length} :
    findTable tables name = some id ↔ same (tables.get id).name name = true := by
  rw [findTable, List.findFinIdx?_eq_some_iff]
  refine ⟨And.left, fun equal => ⟨equal, fun other before sooner => ?_⟩⟩
  have both : same (tables.get other).name (tables.get id).name = true := by
    rw [same, beq_iff_eq] at *
    exact sooner.trans equal.symm
  exact absurd (distinct.eq_of_same both) (Fin.ne_of_lt before)

theorem findTable_eq_none :
    findTable tables name = none ↔ ∀ id : Fin tables.length, same (tables.get id).name name = false := by
  simp [findTable, List.findFinIdx?_eq_none_iff, List.forall_mem_iff_forall_getElem, Fin.forall_iff]

/-- Among distinct names a parent of another spelling is another entry. -/
theorem Distinct.parentFault?_eq_none (distinct : Distinct tables) {id : Fin tables.length} :
    (tables.get id).parentFault? tables = none ↔ FollowsAnother tables id := by
  rw [TableSpec.parentFault?, FollowsAnother]
  cases (tables.get id).follows with
  | none => exact iff_of_true rfl fun _ follows => by cases follows
  | some name =>
    simp only [Option.some.injEq, forall_eq']
    cases found : findTable tables name with
    | none =>
      refine iff_of_false (Option.some_ne_none _) ?_
      rintro ⟨parent, -, equal⟩
      rw [findTable_eq_none.mp found parent] at equal
      cases equal
    | some place =>
      simp only [ite_eq_right_iff, reduceCtorEq, imp_false]
      constructor
      · intro other
        refine ⟨place, fun own => other (own ▸ rfl), distinct.findTable_eq_some.mp found⟩
      · rintro ⟨parent, different, equal⟩ own
        obtain rfl : place = parent :=
          Option.some.inj (found.symm.trans (distinct.findTable_eq_some.mpr equal))
        exact different (distinct.eq_of_same (own ▸ same_refl _))

end Lookup

/-- Nothing is at fault in consistent declarations, and in no others. -/
theorem catalogFault?_eq_none : catalogFault? tables = none ↔ Consistent tables := by
  have parents (distinct : Distinct tables) :
      tables.findSome? (TableSpec.parentFault? tables) = none ↔ ∀ id, FollowsAnother tables id := by
    rw [List.findSome?_eq_none_iff, List.forall_mem_iff_forall_getElem]
    exact ⟨fun each id => distinct.parentFault?_eq_none.mp (each id.val id.isLt),
      fun each place bound => distinct.parentFault?_eq_none.mpr (each ⟨place, bound⟩)⟩
  rw [catalogFault?]
  split
  · rename_i empty
    simp only [reduceCtorEq, false_iff]
    exact fun consistent => consistent.filled (List.isEmpty_iff.mp empty)
  · rename_i filled
    rw [Option.or_eq_none_iff, declarationFault?_eq_none_iff]
    constructor
    · rintro ⟨⟨each, distinct, -⟩, sound⟩
      exact ⟨filled ∘ List.isEmpty_iff.mpr, each, distinct, (parents distinct).mp sound⟩
    · rintro ⟨-, each, distinct, sound⟩
      exact ⟨⟨each, distinct, by simp⟩, (parents distinct).mpr sound⟩

end SeedCoverage

import SeedCoverage.Proofs.Catalog.Consistent

/-! What a catalog promises: it is made of consistent declarations and of no others, so that a table is
found by its name, and its parent is the other table that it says it follows. -/
namespace SeedCoverage

open Text

namespace Catalog

variable {tables : List TableSpec} {name : Text}

theorem consistent (catalog : Catalog) : Consistent catalog.tables :=
  catalogFault?_eq_none.mp catalog.sound

theorem identifier_name (catalog : Catalog) (id : catalog.Id) :
    isIdentifier (catalog.get id).name = true :=
  isIdentifier_iff.mpr (catalog.consistent.each _ (List.getElem_mem id.isLt)).named

variable {catalog : Catalog}

theorem lookup_eq_some {id : catalog.Id} :
    catalog.lookup name = some id ↔ same (catalog.get id).name name = true :=
  catalog.consistent.distinct.findTable_eq_some

theorem lookup_eq_none :
    catalog.lookup name = none ↔ ∀ id, same (catalog.get id).name name = false :=
  findTable_eq_none

theorem lookup_get (catalog : Catalog) (id : catalog.Id) :
    catalog.lookup (catalog.get id).name = some id :=
  lookup_eq_some.mpr (same_refl _)

theorem name_inj {id other : catalog.Id} :
    (catalog.get id).name = (catalog.get other).name ↔ id = other := by
  constructor
  · intro same
    have found := catalog.lookup_get id
    rw [same, catalog.lookup_get other] at found
    exact (Option.some.inj found).symm
  · rintro rfl
    rfl

theorem parentOf_eq_some {id parent : catalog.Id} :
    catalog.parentOf id = some parent ↔
      ∃ name, (catalog.get id).follows = some name ∧ same (catalog.get parent).name name = true := by
  rw [parentOf, Option.bind_eq_some_iff]
  simp only [lookup_eq_some]

theorem exists_parent {id : catalog.Id} (follows : (catalog.get id).follows ≠ none) :
    ∃ parent, catalog.parentOf id = some parent ∧ parent ≠ id := by
  obtain ⟨name, named⟩ := Option.ne_none_iff_exists'.mp follows
  obtain ⟨parent, different, equal⟩ := catalog.consistent.parents id name named
  exact ⟨parent, parentOf_eq_some.mpr ⟨name, named, equal⟩, different⟩

theorem parent_ne {id parent : catalog.Id} (follows : catalog.parentOf id = some parent) :
    parent ≠ id := by
  have some_parent : (catalog.get id).follows ≠ none := by
    intro absent
    rw [parentOf, absent] at follows
    cases follows
  obtain ⟨other, found, different⟩ := exists_parent some_parent
  rw [follows] at found
  exact Option.some.inj found ▸ different

theorem ofTables_eq_ok : ofTables tables = .ok catalog ↔ catalog.tables = tables := by
  rw [ofTables]
  split
  · rename_i fault found
    simp only [reduceCtorEq, false_iff]
    rintro rfl
    rw [catalog.sound] at found
    cases found
  · rename_i found
    rw [Except.ok.injEq]
    constructor
    · rintro rfl
      rfl
    · rintro rfl
      rfl

/-- Exactly the consistent declarations make a catalog, of just these tables. A name is then looked up to
the one table it names, letter case aside, and a table's parent is the one that it says it follows, which
is never itself. -/
theorem ofTables_exact (tables : List TableSpec) :
    ((∃ catalog, ofTables tables = .ok catalog) ↔ Consistent tables) ∧
    ∀ catalog, ofTables tables = .ok catalog →
      catalog.tables = tables ∧
      (∀ name id, catalog.lookup name = some id ↔ same (catalog.get id).name name = true) ∧
      (∀ name, catalog.lookup name = none ↔ ∀ id, same (catalog.get id).name name = false) ∧
      (∀ id parent, catalog.parentOf id = some parent ↔
        ∃ name, (catalog.get id).follows = some name ∧ same (catalog.get parent).name name = true) ∧
      ∀ id parent, catalog.parentOf id = some parent → parent ≠ id := by
  refine ⟨⟨?_, fun consistent => ?_⟩, fun catalog accepted => ?_⟩
  · rintro ⟨catalog, accepted⟩
    exact ofTables_eq_ok.mp accepted ▸ catalog.consistent
  · exact ⟨⟨tables, catalogFault?_eq_none.mpr consistent⟩, ofTables_eq_ok.mpr rfl⟩
  · exact ⟨ofTables_eq_ok.mp accepted, fun _ _ => lookup_eq_some, fun _ => lookup_eq_none,
      fun _ _ => parentOf_eq_some, fun _ _ => parent_ne⟩

/-- The built-in tables make a catalog, and the translations of items follow the items. -/
theorem builtinTables_exact :
    ofTables builtinTables = .ok builtin ∧ Consistent builtinTables ∧
      builtin.lookup "Item_Translations" = some (1 : Fin 6) ∧
        builtin.parentOf (1 : Fin 6) = some (0 : Fin 6) := by
  have accepted : ofTables builtinTables = .ok builtin := ofTables_eq_ok.mpr rfl
  obtain ⟨consistent, exact⟩ := ofTables_exact builtinTables
  obtain ⟨-, found, -, follows, -⟩ := exact builtin accepted
  refine ⟨accepted, consistent.mp ⟨builtin, accepted⟩, ?_, ?_⟩
  · exact (found _ _).mpr (by decide)
  · exact (follows _ _).mpr ⟨"items", rfl, by decide⟩

end Catalog
end SeedCoverage

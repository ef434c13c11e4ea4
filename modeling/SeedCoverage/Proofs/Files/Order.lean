import Mathlib.Logic.Function.Defs
import SeedCoverage.Files.Path

/-! The order of paths. Components are ordered as their keys are, and paths as the lists of their
components, so that only spellings of one path are in order both ways. -/
namespace SeedCoverage.Files

variable {left middle right : Text}

theorem lexLe_eq_isLE {α : Type} (compare : α → α → Ordering) (left right : List α) :
    lexLe compare left right = (List.compareLex compare left right).isLE := by
  fun_induction lexLe compare left right with
  | case1 right => exact List.isLE_compareLex_nil_left.symm
  | case2 => rfl
  | case3 x xs y ys before => rw [List.compareLex_cons_cons, before]; rfl
  | case4 x xs y ys equal ih => rw [List.compareLex_cons_cons, equal, ih]; rfl
  | case5 x xs y ys behind => rw [List.compareLex_cons_cons, behind]; rfl

namespace Component

theorem key_injective : Function.Injective key := by
  have letters {left right : Text} (equal : left.map Char.toNat = right.map Char.toNat) :
      left = right :=
    (List.map_inj_right fun _ _ => Char.toNat_inj.mp).mp equal
  intro left right equal
  cases left with
  | name left =>
    cases right with
    | name right => exact congrArg name (letters (List.cons.inj equal).2)
    | _ => simp [key] at equal
  | _ => cases right <;> simp [key] at equal ⊢

theorem compare_eq : Component.compare = compareOn key := by
  funext left right
  have order : lexLe Ord.compare left.key right.key = (compareOn key left right).isLE :=
    lexLe_eq_isLE ..
  rw [Component.compare, order]
  split
  · rename_i equal
    rw [equal]
    exact Std.ReflCmp.compare_self.symm
  · rename_i different
    cases found : compareOn key left right with
    | lt => rfl
    | eq => exact absurd (key_injective (Std.LawfulEqOrd.eq_of_compare found)) different
    | gt => rfl

instance : Std.TransCmp Component.compare :=
  compare_eq ▸ inferInstance

instance : Std.LawfulEqCmp Component.compare where
  eq_of_compare equal := by
    rw [compare_eq] at equal
    exact key_injective (Std.LawfulEqOrd.eq_of_compare equal)

end Component

theorem samePath_iff : samePath left right = true ↔ components left = components right :=
  beq_iff_eq

theorem pathLe_trans (first : pathLe left middle = true) (second : pathLe middle right = true) :
    pathLe left right = true := by
  rw [pathLe, lexLe_eq_isLE] at *
  exact Std.TransCmp.isLE_trans first second

theorem pathLe_total (left right : Text) : (pathLe left right || pathLe right left) = true := by
  have turned : List.compareLex Component.compare (components left) (components right) =
      (List.compareLex Component.compare (components right) (components left)).swap :=
    Std.OrientedCmp.eq_swap
  rw [pathLe, pathLe, lexLe_eq_isLE, lexLe_eq_isLE, turned]
  cases List.compareLex Component.compare (components right) (components left) <;> rfl

/-- Paths that are in order both ways are spellings of one path. -/
theorem pathLe_antisymm (first : pathLe left right = true) (second : pathLe right left = true) :
    samePath left right = true := by
  rw [pathLe, lexLe_eq_isLE] at *
  exact samePath_iff.mpr (Std.LawfulEqCmp.eq_of_compare (Std.OrientedCmp.isLE_antisymm first second))

end SeedCoverage.Files

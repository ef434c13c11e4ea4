/-! Computations that may break off, and what it means that they go through. -/
namespace SeedCoverage

variable {ε α β : Type}

theorem bind_eq_ok {result : Except ε α} {next : α → Except ε β} {value : β} :
    (result >>= next) = .ok value ↔ ∃ first, result = .ok first ∧ next first = .ok value := by
  cases result with
  | error => simp [bind, Except.bind]
  | ok first => simp [bind, Except.bind]

theorem mapM_ok {f : α → Except ε β} {g : α → β} (list : List α)
    (goes : ∀ value ∈ list, f value = .ok (g value)) : list.mapM f = .ok (list.map g) := by
  induction list with
  | nil => rfl
  | cons value rest ih =>
    rw [List.mapM_cons, goes value List.mem_cons_self,
      ih fun other member => goes other (List.mem_cons_of_mem value member)]
    rfl

/-- A list of results goes through just where each of them does. -/
theorem mapM_id_eq_some {results : List (Option α)} {values : List α} :
    results.mapM id = some values ↔ results = values.map some := by
  induction results generalizing values with
  | nil => cases values <;> simp
  | cons result rest ih =>
    cases result with
    | none => cases values <;> simp
    | some value =>
      cases values with
      | nil => simp [Option.bind_eq_some_iff]
      | cons first more =>
        rw [List.map_cons, List.cons.injEq, Option.some.injEq, ← ih, and_comm]
        simp [Option.bind_eq_some_iff]

theorem vector_mapM_id_eq_some {size : Nat} {results : Vector (Option α) size} {values : Vector α size} :
    results.mapM id = some values ↔ results = values.map some := by
  have listed : Vector.toList <$> results.mapM id = results.toList.mapM id := by
    rw [← Vector.toList_toArray, ← Array.toList_mapM, ← Vector.toArray_mapM, Functor.map_map]
    rfl
  rw [← Vector.toList_inj, Vector.toList_map, ← mapM_id_eq_some, ← listed]
  cases results.mapM id <;> simp [Vector.toList_inj]

end SeedCoverage

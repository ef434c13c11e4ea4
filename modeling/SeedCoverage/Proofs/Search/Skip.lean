import SeedCoverage.Proofs.Reading.Balanced
import SeedCoverage.Sql.Search

/-! What a search does with a text whose steps it does not accept: it goes on behind it. A place that
is found stays the place that is found when more text follows. -/
namespace SeedCoverage.Sql

section Cons

variable {accept : Step → Option Nat} {state : State} {previous : Option Char} {behind text : Text}
  {c : Char}

theorem findFrom_cons (single : Lexeme.at none state c text.head? ≠ .quotePair) :
    findFrom accept state previous behind (c :: text) =
      (Step.cut? accept behind ⟨state, previous, Lexeme.at none state c text.head?, text⟩).or
        (findFrom accept (state.after (Lexeme.at none state c text.head?)) (some c) (c :: behind)
          text) := by
  cases text with
  | nil => simp [findFrom]
  | cons d rest =>
    simp only [List.head?_cons] at single ⊢
    simp only [findFrom]
    cases Step.cut? accept behind ⟨state, previous, Lexeme.at none state c (some d), d :: rest⟩ <;> rfl

theorem findFrom_pair (pair : Lexeme.at none state '\'' (some '\'') = .quotePair) :
    findFrom accept state previous behind ('\'' :: '\'' :: text) =
      (Step.cut? accept behind ⟨state, previous, .quotePair, text⟩).or
        (findFrom accept state (some '\'') ('\'' :: '\'' :: behind) text) := by
  simp only [findFrom, pair]
  cases Step.cut? accept behind ⟨state, previous, .quotePair, text⟩ <;> rfl

theorem findFrom_here {size : Nat} (single : Lexeme.at none state c text.head? = .char c)
    (accepted : accept ⟨state, previous, .char c, text⟩ = some size) :
    findFrom accept state previous behind (c :: text) =
      some ⟨behind.reverse, (c :: text).take size, (c :: text).drop size⟩ := by
  rw [findFrom_cons (by simp [single]), single, Step.cut?, accepted]
  rfl

end Cons

variable {accept : Step → Option Nat} {state : State} {previous : Option Char}
  {behind left right text more : Text}

/-- Where no step of the left part is accepted, the search goes on in the right part. -/
theorem findFrom_append (apart : Apart left right)
    (skipped : ∀ step ∈ scan none state previous left, accept (step.extend right) = none) :
    findFrom accept state previous behind (left ++ right) =
      findFrom accept (state.afterText none left) (lastChar previous left) (left.reverse ++ behind)
        right := by
  fun_induction scan none state previous left generalizing behind with
  | case1 => rfl
  | case2 state previous c =>
    have same : Lexeme.at none state c right.head? = Lexeme.at none state c none := by
      cases right with
      | nil => rfl
      | cons d rest => exact Lexeme.at_next fun both => apart (by simp [both.1]) (by simp [both.2])
    have here := skipped _ (List.mem_singleton.mpr rfl)
    rw [List.singleton_append, findFrom_cons (same ▸ Lexeme.at_none_ne_pair), same]
    simp only [Step.extend, List.nil_append] at here
    simp [Step.cut?, here, State.afterText, lastChar]
  | case3 state previous c d rest pair ih =>
    obtain ⟨rfl, rfl⟩ := Lexeme.eq_quotes_of_pair pair
    have here := skipped _ List.mem_cons_self
    have later := @ih ('\'' :: '\'' :: behind) apart.drop_pair
      fun step member => skipped step (by simp [member])
    simp only [Step.extend] at here
    rw [List.cons_append, List.cons_append, findFrom_pair pair, Step.cut?, here, later,
      afterText_pair pair]
    simp [lastChar_cons]
  | case4 state previous c d rest single ih =>
    have first : Lexeme.at none state c (d :: (rest ++ right)).head? ≠ .quotePair := by
      simpa using single
    have here := skipped _ List.mem_cons_self
    have later := @ih (c :: behind) apart.tail fun step member => skipped step (by simp [member])
    simp only [Step.extend, List.cons_append] at here
    rw [List.cons_append, List.cons_append, findFrom_cons first,
      @afterText_cons none state c (d :: rest) (by simpa using single)]
    simp only [List.head?_cons, Step.cut?, here, lastChar_cons _ c]
    rw [← List.cons_append, Option.map_none, Option.none_or, later]
    simp

/-- The same place with more text before it. -/
def Found.precede (front : Text) (place : Found) : Found :=
  { place with before := front ++ place.before }

/-- The same place with more text behind it. -/
def Found.extend (more : Text) (place : Found) : Found := { place with after := place.after ++ more }

/-- What was read before a search is put before what it finds. -/
theorem findFrom_behind :
    findFrom accept state previous behind text =
      (findFrom accept state previous [] text).map (Found.precede behind.reverse) := by
  rw [findFrom_eq, findFrom_eq, List.map_findSome?]
  congr 1
  funext step
  simp only [Step.cut?, Function.comp_apply, List.append_nil, Option.map_map]
  congr 1
  funext size
  simp [Found.precede]

theorem findStep_append (apart : Apart left right)
    (skipped : ∀ step ∈ scan none .start previous left, accept (step.extend right) = none)
    (ends : State.start.afterText none left = .start) :
    findStep accept previous (left ++ right) =
      (findStep accept (lastChar previous left) right).map (Found.precede left) := by
  rw [findStep, findFrom_append apart skipped, ends, findFrom_behind, findStep]
  simp

theorem Step.cut?_extend {step : Step} (stable : accept (step.extend more) = accept step)
    (bounded : ∀ size, accept step = some size → size ≤ step.ahead.length) :
    (step.extend more).cut? accept behind = (step.cut? accept behind).map (Found.extend more) := by
  rw [Step.cut?, Step.cut?, stable, Option.map_map]
  cases accepted : accept step with
  | none => rfl
  | some size =>
    have fits := bounded size accepted
    simp [Found.extend, List.take_append_of_le_length fits, List.drop_append_of_le_length fits]

private theorem findSome?_congr {run : List Step} {pick other : Step → Option Found}
    (same : ∀ step ∈ run, pick step = other step) : run.findSome? pick = run.findSome? other := by
  induction run with
  | nil => rfl
  | cons step rest ih =>
    rw [List.findSome?_cons, List.findSome?_cons, same step (by simp),
      ih fun later member => same later (by simp [member])]

/-- A place that is found is found again when more text follows. -/
theorem findFrom_extend {place : Found} (apart : Apart text more)
    (stable : ∀ step, accept (step.extend more) = accept step)
    (bounded : ∀ step size, accept step = some size → size ≤ step.ahead.length)
    (found : findFrom accept state previous behind text = some place) :
    findFrom accept state previous behind (text ++ more) = some (place.extend more) := by
  have same : ∀ step ∈ scan none state previous text,
      (step.extend more).cut? accept (((step.extend more).before (text ++ more)).reverse ++ behind) =
        (step.cut? accept ((step.before text).reverse ++ behind)).map (Found.extend more) := by
    intro step member
    have fits := ahead_of_mem_scan member
    have before : (step.extend more).before (text ++ more) = step.before text := by
      simp only [Step.before, Step.extend_ahead, List.length_append, Nat.add_sub_add_right]
      exact List.take_append_of_le_length (Nat.sub_le _ _)
    rw [before, Step.cut?_extend (stable step) (bounded step)]
  rw [findFrom_eq] at found ⊢
  have first := (findSome?_congr same).trans
    ((List.map_findSome? (g := Found.extend more)).symm.trans (congrArg _ found))
  rw [scan_append apart, List.findSome?_append, List.findSome?_map]
  exact (congrArg (Option.or · _) first).trans rfl

end SeedCoverage.Sql

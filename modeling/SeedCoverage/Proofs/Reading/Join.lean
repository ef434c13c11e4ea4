import SeedCoverage.Proofs.Reading.Balanced
import SeedCoverage.Proofs.Text.Trim

/-! Texts with a separator between each pair of neighbours, read from the first to the last. -/
namespace SeedCoverage.Sql

open Text

theorem join_cons_cons (separator first second : Text) (rest : List Text) :
    join separator (first :: second :: rest) =
      first ++ (separator ++ join separator (second :: rest)) :=
  List.append_assoc _ _ _

theorem map_eq_self {α : Type} {f : α → α} {parts : List α} (same : ∀ part ∈ parts, f part = part) :
    parts.map f = parts :=
  calc parts.map f = parts.map id := List.map_congr_left same
    _ = parts := List.map_id parts

variable {separator : Text} {parts : List Text}

theorem join_ne_nil (some_part : parts ≠ []) (filled : ∀ part ∈ parts, part ≠ []) :
    join separator parts ≠ [] := by
  cases parts with
  | nil => exact absurd rfl some_part
  | cons first rest =>
    cases rest with
    | nil => exact filled first (by simp)
    | cons second rest => simp [join_cons_cons, filled first (by simp)]

theorem join_trimmed (filled : ∀ part ∈ parts, part ≠ []) (trimmed : ∀ part ∈ parts, Trimmed part) :
    Trimmed (join separator parts) := by
  induction parts with
  | nil => exact ⟨by simp [join], by simp [join]⟩
  | cons first rest ih =>
    cases rest with
    | nil => exact trimmed first (by simp)
    | cons second rest =>
      have later := ih (fun part member => filled part (by simp [member]))
        fun part member => trimmed part (by simp [member])
      have laterFilled : join separator (second :: rest) ≠ [] :=
        join_ne_nil (by simp) fun part member => filled part (by simp [member])
      exact (trimmed first (by simp)).append later (filled first (by simp)) laterFilled

/-- What is read through the whole is what is read through the parts and between them. -/
theorem Reads.join {allowed : State → Lexeme → Prop} {state : State}
    (between : Reads allowed state separator state) (opens : ∀ c ∈ separator.head?, c ≠ '\'')
    (closes : ∀ c ∈ separator.getLast?, c ≠ '\'') (some_separator : separator ≠ [])
    (each : ∀ part ∈ parts, Reads allowed state part state) :
    Reads allowed state (Text.join separator parts) state := by
  induction parts with
  | nil => exact .nil
  | cons first rest ih =>
    cases rest with
    | nil => exact each first (by simp)
    | cons second rest =>
      have later := ih fun part member => each part (by simp [member])
      have last : Apart separator (Text.join separator (second :: rest)) :=
        .of_last fun quoted => closes _ quoted rfl
      have front : Apart first (separator ++ Text.join separator (second :: rest)) := by
        obtain ⟨c, letters, rfl⟩ := List.exists_cons_of_ne_nil some_separator
        exact .of_head (by simpa using opens c rfl)
      rw [join_cons_cons]
      exact (each first (by simp)).append (between.append later last) front

end SeedCoverage.Sql

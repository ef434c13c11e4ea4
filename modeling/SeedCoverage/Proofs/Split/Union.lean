import SeedCoverage.Proofs.Reading.Join
import SeedCoverage.Proofs.Search.Phrase
import SeedCoverage.Sql.Split

/-! Clauses of a union. Written with UNION ALL between them, clauses that do not hold the phrase come
back as they were. -/
namespace SeedCoverage.Sql

open Text

/-- Clauses with UNION ALL between each pair of neighbours. -/
def united (clauses : List Text) : Text := join " UNION ALL " clauses

/-- A clause leaves nothing open and does not begin the phrase that would end it. -/
structure Clause (text : Text) : Prop where
  filled : text ≠ []
  trimmed : Trimmed text
  ends : State.start.afterText none text = .start
  quiet : ∀ right, Bars unionAll right → Quiet unionAll text right

variable {previous : Option Char} {text rest : Text}

theorem united_cons (first second : Text) (rest : List Text) :
    united (first :: second :: rest) = first ++ (" UNION ALL " ++ united (second :: rest)) :=
  join_cons_cons _ _ _ _

theorem unionPieces_absent (absent : findPhrase unionAll previous text = none) :
    unionPieces previous text = [text] := by
  rw [unionPieces]
  split
  · rfl
  · rename_i found
    rw [absent] at found
    cases found

theorem unionPieces_found {place : Found} (found : findPhrase unionAll previous text = some place) :
    unionPieces previous text =
      place.before :: unionPieces place.found.getLast? place.after := by
  rw [unionPieces]
  split
  · rename_i absent
    rw [found] at absent
    cases absent
  · rename_i other same
    obtain rfl : place = other := Option.some.inj (found.symm.trans same)
    rfl

theorem bars_unionAll (rest : Text) : Bars unionAll (" UNION ALL " ++ rest) := by
  constructor
  · intro c member
    obtain rfl : ' ' = c := Option.some.inj member
    decide
  · intro word member
    obtain rfl : word = "all" := List.mem_singleton.mp member
    rfl

theorem findPhrase_unionAll (ends : State.start.afterText none text = .start)
    (quiet : Quiet unionAll text (" UNION ALL " ++ rest)) :
    findPhrase unionAll previous (text ++ (" UNION ALL " ++ rest)) =
      some ⟨text ++ [' '], "UNION ALL", ' ' :: rest⟩ := by
  have size : phraseSize? unionAll (some ' ') ("UNION ALL " ++ rest) = some 9 := rfl
  have here : findPhrase unionAll (lastChar previous text) (" UNION ALL " ++ rest) =
      some ⟨[' '], "UNION ALL", ' ' :: rest⟩ :=
    findPhrase_blank rfl (by decide) size ⟨'u', rfl, by decide⟩
  rw [quiet.findPhrase_append (.of_head (by simp)) ends, here]
  rfl

private theorem Clause.behind {lead : Text} (clause : Clause text) (blank : lead = [] ∨ lead = [' '])
    (bars : Bars unionAll rest) :
    State.start.afterText none (lead ++ text) = .start ∧ Quiet unionAll (lead ++ text) rest := by
  rcases blank with rfl | rfl
  · exact ⟨clause.ends, clause.quiet rest bars⟩
  · have apart : Apart [' '] text := .of_last (by simp)
    refine ⟨by rw [afterText_append apart]; exact clause.ends, ?_⟩
    exact .append apart rfl (.of_unstarted ⟨'u', rfl, by decide⟩) (clause.quiet rest bars)

private theorem Clause.trim_behind {lead : Text} (clause : Clause text)
    (blank : lead = [] ∨ lead = [' ']) : trim (lead ++ text) = text := by
  rcases blank with rfl | rfl
  · exact clause.trimmed.trim_eq
  · exact (trim_cons (by decide)).trans clause.trimmed.trim_eq

private theorem Clause.trim_between {lead : Text} (clause : Clause text)
    (blank : lead = [] ∨ lead = [' ']) : trim (lead ++ text ++ [' ']) = text := by
  rcases blank with rfl | rfl
  · exact clause.trimmed.trim_concat clause.filled (by decide)
  · exact (trim_cons (by decide)).trans (clause.trimmed.trim_concat clause.filled (by decide))

/-- The first clause is read up to its phrase, and the others from there, each behind a blank. -/
theorem unionPieces_united {first : Text} {others : List Text}
    (each : ∀ clause ∈ first :: others, Clause clause) {lead : Text}
    (blank : lead = [] ∨ lead = [' ']) :
    (unionPieces previous (lead ++ united (first :: others))).map trim = first :: others := by
  have clause := each first (by simp)
  induction others generalizing first previous lead with
  | nil =>
    obtain ⟨_, quiet⟩ := clause.behind blank (.nil (by decide))
    rw [united, join, unionPieces_absent quiet.findPhrase_eq_none]
    simp [clause.trim_behind blank]
  | cons second others ih =>
    have later := @ih (some 'L') second (fun other member => each other (by simp [member]))
      [' '] (.inr rfl) (each second (by simp))
    obtain ⟨ends, quiet⟩ := clause.behind blank (bars_unionAll (united (second :: others)))
    rw [united_cons, ← List.append_assoc, unionPieces_found (findPhrase_unionAll ends quiet)]
    exact congrArg₂ List.cons (clause.trim_between blank) later

/-- Clauses that are written as a union are read as they were. -/
theorem unionClauses_united {clauses : List Text} (some_clause : clauses ≠ [])
    (each : ∀ clause ∈ clauses, Clause clause) : unionClauses (united clauses) = clauses := by
  obtain ⟨first, others, rfl⟩ := List.exists_cons_of_ne_nil some_clause
  have pieces := @unionPieces_united none first others each [] (.inl rfl)
  rw [List.nil_append] at pieces
  rw [unionClauses, pieces]
  exact List.filter_eq_self.mpr fun clause member => by simpa using (each clause member).filled

end SeedCoverage.Sql

import SeedCoverage.Proofs.Reading.Join
import SeedCoverage.Proofs.Script.Extract
import SeedCoverage.Proofs.Script.Strip
import SeedCoverage.Sql.Insert

/-! Scripts of statements on lines of their own. Statements without comments, each ended by its only
semicolon, are all found, in order and unchanged. -/
namespace SeedCoverage.Sql

open Text

/-- No semicolon at the top level, and no mark with which a comment begins. -/
def inStatement (state : State) (lexeme : Lexeme) : Prop :=
  ¬(state.atTop = true ∧ lexeme = .char ';') ∧ bare state lexeme

instance (state : State) (lexeme : Lexeme) : Decidable (inStatement state lexeme) :=
  inferInstanceAs (Decidable (_ ∧ _))

/-- A statement up to its semicolon. -/
structure Sealed (body : Text) : Prop where
  reads : Reads inStatement .start body .start
  begins : ∀ rest, startsWith insertInto (body ++ rest) = true

/-- Every statement with its semicolon, on a line of its own. -/
def script (bodies : List Text) : Text := join ['\n'] (bodies.map (· ++ [';']))

variable {bodies : List Text}

theorem stripComments_script (each : ∀ body ∈ bodies, Sealed body) :
    stripComments (script bodies) = script bodies := by
  have lines : ∀ line ∈ bodies.map (· ++ [';']), Reads bare .start line .start := by
    intro line member
    obtain ⟨body, present, rfl⟩ := List.mem_map.mp member
    have semicolon : Reads bare .start [';'] .start := .chars rfl (by decide)
    have statement : Reads bare .start body .start :=
      (each body present).reads.mono fun _ _ allowed => allowed.2
    exact statement.append semicolon (.of_head (by decide))
  have whole : Reads bare .start (script bodies) .start :=
    .join (.chars rfl (by decide)) (by decide) (by decide) (by decide) lines
  exact @stripFrom_eq_self .start none _ whole.each

theorem statements_script (each : ∀ body ∈ bodies, Sealed body) :
    statements (script bodies) = bodies.map (· ++ [';']) := by
  induction bodies with
  | nil => exact statements_absent rfl
  | cons body rest ih =>
    have later := ih fun other member => each other (by simp [member])
    obtain ⟨reads, begins⟩ := each body (by simp)
    have first (rest : Text) :
        statements (body ++ ';' :: rest) = (body ++ [';']) :: statements rest :=
      statements_cons (reads.mono fun _ _ allowed => allowed.1) (begins _)
    cases rest with
    | nil =>
      have nothing : statements [] = [] := statements_absent rfl
      exact (first []).trans (congrArg _ nothing)
    | cons second rest =>
      have shape : script (body :: second :: rest) =
          body ++ ';' :: '\n' :: script (second :: rest) := by
        simp [script, join_cons_cons]
      have next :
          statements ('\n' :: script (second :: rest)) = statements (script (second :: rest)) :=
        statements_congr (seekInsert?_newline _)
      rw [shape, first, next, later]
      rfl

/-- Every statement of a script is read, and nothing else. -/
theorem readScript_script (each : ∀ body ∈ bodies, Sealed body) (catalog : Catalog)
    (hint : Option Text) :
    readScript catalog hint (script bodies) =
      bodies.map fun body => readInsert catalog hint (body ++ [';']) := by
  rw [readScript, stripComments_script each, statements_script each, List.map_map]
  rfl

end SeedCoverage.Sql

import SeedCoverage.Proofs.Reading.Lexical
import SeedCoverage.Proofs.Script.Automaton

/-! Texts without comments. What stripping leaves is such a text, whatever stood on either side of a
comment, and stripping leaves such a text alone. -/
namespace SeedCoverage.Sql

open Text Bytes

/-- From `quote` on, no comment begins in the text. -/
def Uncommented : Quote → Text → Prop
  | _, [] => True
  | quote, c :: rest => NoComment quote c rest ∧ Uncommented (quote.read c) rest

/-- The quotes that are open in a region. Around a comment none are. -/
def Region.quote : Region → Quote
  | .sql quote => quote
  | .lineComment => .code
  | .blockComment => .code

variable {quote : Quote} {text : Text}

theorem head?_sweep_lineComment (text : Text) :
    ∀ c ∈ (sweep .lineComment text).head?, c = '\n' := by
  induction text with
  | nil => simp [sweep]
  | cons c rest ih =>
    by_cases feed : c = '\n'
    · subst feed
      simp [sweep_lineFeed]
    · rw [sweep_lineComment feed]
      exact ih

/-- Outside quotes the machine writes first what the text begins with, or one of the two characters that
it writes for a comment. -/
theorem head?_sweep_code {c : Char} (written : (sweep (.sql .code) text).head? = some c)
    (space : c ≠ ' ') (feed : c ≠ '\n') : text.head? = some c := by
  cases text with
  | nil => exact written
  | cons d rest =>
    by_cases line : d = '-' ∧ rest.head? = some '-'
    · obtain ⟨rfl, next⟩ := line
      obtain ⟨more, rfl⟩ := List.head?_eq_some_iff.mp next
      rw [sweep] at written
      exact absurd (head?_sweep_lineComment more c written) feed
    · by_cases block : d = '/' ∧ rest.head? = some '*'
      · obtain ⟨rfl, next⟩ := block
        obtain ⟨more, rfl⟩ := List.head?_eq_some_iff.mp next
        rw [sweep] at written
        exact absurd (Option.some.inj written).symm space
      · rw [sweep_sql fun _ => ⟨line, block⟩] at written
        exact written

/-- What a character does not begin a comment with, it does not begin one with when comments behind it
are gone. -/
theorem noComment_sweep {c : Char} (plain : NoComment quote c text) :
    NoComment quote c (sweep (.sql (quote.read c)) text) := by
  intro code
  obtain ⟨line, block⟩ := plain code
  subst code
  constructor
  · rintro ⟨rfl, dash⟩
    exact line ⟨rfl, head?_sweep_code dash (by decide) (by decide)⟩
  · rintro ⟨rfl, star⟩
    exact block ⟨rfl, head?_sweep_code star (by decide) (by decide)⟩

/-- The machine writes no comment. -/
theorem uncommented_sweep (region : Region) (text : Text) :
    Uncommented region.quote (sweep region text) := by
  fun_induction sweep region text with
  | case1 => trivial
  | case2 rest ih => exact ih
  | case3 rest ih => exact ⟨fun _ => by simp, ih⟩
  | case4 quote c rest line block ih =>
    exact ⟨noComment_sweep (noComment_of_cases line block), ih⟩
  | case5 rest ih => exact ⟨fun _ => by simp, ih⟩
  | case6 c rest inside ih => exact ih
  | case7 rest ih => exact ih
  | case8 c rest inside ih => exact ih

theorem Uncommented.sweep_eq_self (plain : Uncommented quote text) :
    sweep (.sql quote) text = text := by
  induction text generalizing quote with
  | nil => rw [sweep]
  | cons c rest ih => rw [sweep_sql plain.1, ih plain.2]

/-- The texts without comments are those that stripping leaves alone. -/
theorem stripComments_eq_self_iff : stripComments text = text ↔ Uncommented .code text := by
  rw [stripComments, stripFrom_eq_sweep]
  constructor
  · intro same
    have plain := uncommented_sweep (.sql .code) text
    rwa [same] at plain
  · exact Uncommented.sweep_eq_self

theorem Uncommented.append {front back : Text} (plain : Uncommented quote (front ++ back)) :
    Uncommented (front.foldl Quote.read quote) back := by
  induction front generalizing quote with
  | nil => exact plain
  | cons c rest ih => exact ih plain.2

theorem quote_foldl_read (state : State) (text : Text) :
    (text.foldl State.read state).quote = text.foldl Quote.read state.quote := by
  induction text generalizing state with
  | nil => rfl
  | cons c rest ih => rw [List.foldl_cons, ih, quote_read, List.foldl_cons]

/-- Outside quotes, no step of a text without comments stands at the two characters that begin one. -/
theorem Uncommented.steps {step : Step} (plain : Uncommented .code text) (member : step ∈ steps text)
    (code : step.state.inQuotes = false) :
    ¬['-', '-'] <+: step.ahead ∧ ¬['/', '*'] <+: step.ahead := by
  have same := quote_foldl_read .start (step.before text)
  rw [← state_eq_read member] at same
  have unquoted : step.state.quote = .code := by simpa [State.inQuotes] using code
  have outside : (step.before text).foldl Quote.read .code = .code := same.symm.trans unquoted
  rw [← before_append_ahead member] at plain
  have here := plain.append
  cases ahead : step.ahead with
  | nil => simp
  | cons c rest =>
    rw [ahead] at here
    obtain ⟨line, block⟩ := here.1 outside
    constructor
    · rintro ⟨more, whole⟩
      obtain ⟨rfl, rfl⟩ := List.cons.inj whole
      exact line ⟨rfl, rfl⟩
    · rintro ⟨more, whole⟩
      obtain ⟨rfl, rfl⟩ := List.cons.inj whole
      exact block ⟨rfl, rfl⟩

/-- Stripping a second time changes nothing, and a reading of what is left never stands outside quotes
where a comment begins. -/
theorem stripComments_uncommented (text : Text) :
    stripComments (stripComments text) = stripComments text ∧
      ∀ step ∈ steps (stripComments text), step.state.inQuotes = false →
        ¬"--".toList <+: step.ahead ∧ ¬"/*".toList <+: step.ahead := by
  have plain : Uncommented .code (stripComments text) := by
    rw [stripComments, stripFrom_eq_sweep]
    exact uncommented_sweep (.sql .code) text
  exact ⟨stripComments_eq_self_iff.mpr plain, fun step member => plain.steps member⟩

-- What stands on either side of a comment is parted by the space or the line feed that is left.
example : stripComments "/--x\n*y-/**/-z" = "/\n*y- -z" := by decide +kernel

end SeedCoverage.Sql

import SeedCoverage.Proofs.Bytes.Script

/-! Stripping comments as a machine with five states that takes the bytes of a text one by one: SQL
outside quotes or in quotes of either kind, a line comment, a block comment. A doubled quote, which
stripping takes at once, is for the machine a string that ends and a string that begins. -/
namespace SeedCoverage.Sql

open Text Bytes

/-- What the machine writes. Outside quotes two dashes begin a line comment, and a slash with a star
begins a block comment, for which one space is written. A line comment ends in front of its line feed,
a block comment behind the first star and slash inside it. -/
def sweep : Region → Text → Text
  | _, [] => []
  | .sql .code, '-' :: '-' :: rest => sweep .lineComment rest
  | .sql .code, '/' :: '*' :: rest => ' ' :: sweep .blockComment rest
  | .sql quote, c :: rest => c :: sweep (.sql (quote.read c)) rest
  | .lineComment, '\n' :: rest => '\n' :: sweep (.sql .code) rest
  | .lineComment, _ :: rest => sweep .lineComment rest
  | .blockComment, '*' :: '/' :: rest => sweep (.sql .code) rest
  | .blockComment, _ :: rest => sweep .blockComment rest

section Step

variable {quote : Quote} {c : Char} {rest : Text}

/-- The cases in which the machine sees no comment begin. -/
theorem noComment_of_cases (line : ∀ more, quote = .code → c = '-' → rest = '-' :: more → False)
    (block : ∀ more, quote = .code → c = '/' → rest = '*' :: more → False) :
    NoComment quote c rest := by
  intro code
  constructor
  · rintro ⟨dash, next⟩
    obtain ⟨more, whole⟩ := List.head?_eq_some_iff.mp next
    exact line more code dash whole
  · rintro ⟨slash, next⟩
    obtain ⟨more, whole⟩ := List.head?_eq_some_iff.mp next
    exact block more code slash whole

theorem sweep_sql (plain : NoComment quote c rest) :
    sweep (.sql quote) (c :: rest) = c :: sweep (.sql (quote.read c)) rest := by
  rw [sweep]
  · rintro more code rfl rfl
    exact (plain code).1 ⟨rfl, rfl⟩
  · rintro more code rfl rfl
    exact (plain code).2 ⟨rfl, rfl⟩

theorem sweep_lineFeed : sweep .lineComment ('\n' :: rest) = '\n' :: sweep (.sql .code) rest := by
  rw [sweep]

theorem sweep_lineComment (inside : c ≠ '\n') :
    sweep .lineComment (c :: rest) = sweep .lineComment rest := by
  rw [sweep]
  exact inside

theorem sweep_blockComment (inside : ¬(c = '*' ∧ rest.head? = some '/')) :
    sweep .blockComment (c :: rest) = sweep .blockComment rest := by
  rw [sweep]
  rintro more rfl rfl
  exact inside ⟨rfl, rfl⟩

end Step

theorem sweep_quotes {quote : Quote} (unquoted : quote ≠ .double) (rest : Text) :
    sweep (.sql quote) ('\'' :: '\'' :: rest) = '\'' :: '\'' :: sweep (.sql quote) rest := by
  have plain (quote : Quote) (rest : Text) : NoComment quote '\'' rest := fun _ => by simp
  have twice : (quote.read '\'').read '\'' = quote := by
    cases quote with
    | code => rfl
    | single => rfl
    | double => exact absurd rfl unquoted
  rw [sweep_sql (plain _ _), sweep_sql (plain _ _), twice]

/-- From any state on, the machine writes what stripping leaves. -/
theorem stripFrom_eq_sweep (region : Region) (text : Text) :
    stripFrom region text = sweep region text := by
  fun_induction stripFrom region text with
  | case1 => rw [sweep]
  | case2 quote c =>
    have plain : NoComment quote c [] := fun _ => by simp
    rw [sweep_sql plain, sweep]
  | case3 => rfl
  | case4 c inside => rw [sweep_lineComment inside, sweep]
  | case5 c =>
    have inside : ¬(c = '*' ∧ ([] : Text).head? = some '/') := by simp
    rw [sweep_blockComment inside, sweep]
  | case6 quote c d rest opens ih =>
    obtain ⟨rfl, rfl, rfl⟩ := opens
    rw [ih, sweep_lineComment (by decide), sweep]
  | case7 quote c d rest _ opens ih =>
    obtain ⟨rfl, rfl, rfl⟩ := opens
    rw [ih, sweep]
  | case8 quote c d rest _ _ pair ih =>
    obtain ⟨unquoted, rfl, rfl⟩ := pair
    rw [ih, sweep_quotes unquoted]
  | case9 quote c d rest line block _ ih =>
    have plain : NoComment quote c (d :: rest) := fun code =>
      ⟨fun sign => line ⟨code, sign.1, Option.some.inj sign.2⟩,
        fun sign => block ⟨code, sign.1, Option.some.inj sign.2⟩⟩
    rw [ih, sweep_sql plain]
  | case10 d rest ih => rw [ih, sweep_lineFeed]
  | case11 c d rest inside ih => rw [ih, sweep_lineComment inside]
  | case12 c d rest closes ih =>
    obtain ⟨rfl, rfl⟩ := closes
    rw [ih, sweep]
  | case13 c d rest inside ih =>
    have other : ¬(c = '*' ∧ (d :: rest).head? = some '/') := by simpa using inside
    rw [ih, sweep_blockComment other]

section Octets

variable {quote : Quote} {region : Region} {run : Text}

theorem read_high {c : Char} (high : isAsciiChar c = false) : quote.read c = quote := by
  have other {d : Char} (ascii : isAsciiChar d = true) : c ≠ d := ne_of_high high ascii
  cases quote <;> simp [Quote.read, other (d := '\'') rfl, other (d := '"') rfl]

/-- Bytes outside ASCII are written in SQL, whatever follows. -/
theorem sweep_high (high : ∀ byte ∈ run, isAsciiChar byte = false) (rest : Text) :
    sweep (.sql quote) (run ++ rest) = run ++ sweep (.sql quote) rest := by
  induction run with
  | nil => rfl
  | cons byte run ih =>
    have outside := high byte (by simp)
    have plain : NoComment quote byte (run ++ rest) := fun _ =>
      ⟨fun sign => ne_of_high outside rfl sign.1, fun sign => ne_of_high outside rfl sign.1⟩
    rw [List.cons_append, sweep_sql plain, read_high outside,
      ih fun d member => high d (by simp [member])]
    rfl

theorem sweep_comment_high (comment : region = .lineComment ∨ region = .blockComment)
    (high : ∀ byte ∈ run, isAsciiChar byte = false) (rest : Text) :
    sweep region (run ++ rest) = sweep region rest := by
  induction run with
  | nil => rfl
  | cons byte run ih =>
    have outside := high byte (by simp)
    have later := ih fun d member => high d (by simp [member])
    rw [List.cons_append, ← later]
    rcases comment with rfl | rfl
    · exact sweep_lineComment (ne_of_high outside rfl)
    · exact sweep_blockComment fun closes => ne_of_high outside rfl closes.1

/-- The machine writes the bytes of what it would write of the characters. -/
theorem octets_sweep (region : Region) (text : Text) :
    octets (sweep region text) = sweep region (octets text) := by
  fun_induction sweep region text with
  | case1 => rw [octets_eq_self (by simp), sweep]
  | case2 rest ih => rw [ih, octets_ascii_cons rfl, octets_ascii_cons rfl, sweep]
  | case3 rest ih =>
    rw [octets_ascii_cons rfl, ih, octets_ascii_cons rfl, octets_ascii_cons rfl, sweep]
  | case4 quote c rest line block ih =>
    cases ascii : isAsciiChar c with
    | true =>
      have plain : NoComment quote c (octets rest) := by
        intro code
        rw [head?_octets_eq_some rfl, head?_octets_eq_some rfl]
        exact noComment_of_cases line block code
      rw [octets_ascii_cons ascii, octets_ascii_cons ascii, sweep_sql plain, ih]
    | false =>
      rw [octets_cons, octets_cons c rest, sweep_high (high_of_mem_octets ascii), ih,
        read_high ascii]
  | case5 rest ih => rw [octets_ascii_cons rfl, ih, octets_ascii_cons rfl, sweep]
  | case6 c rest inside ih =>
    cases ascii : isAsciiChar c with
    | true => rw [octets_ascii_cons ascii, sweep_lineComment inside, ih]
    | false => rw [octets_cons, sweep_comment_high (.inl rfl) (high_of_mem_octets ascii), ih]
  | case7 rest ih => rw [ih, octets_ascii_cons rfl, octets_ascii_cons rfl, sweep]
  | case8 c rest inside ih =>
    cases ascii : isAsciiChar c with
    | true =>
      have other : ¬(c = '*' ∧ (octets rest).head? = some '/') := by
        rw [head?_octets_eq_some rfl]
        rintro ⟨star, next⟩
        obtain ⟨more, whole⟩ := List.head?_eq_some_iff.mp next
        exact inside more star whole
      rw [octets_ascii_cons ascii, sweep_blockComment other, ih]
    | false => rw [octets_cons, sweep_comment_high (.inr rfl) (high_of_mem_octets ascii), ih]

end Octets

/-- For every text, stripping by offsets succeeds, and the bytes of what is left are those that the
machine writes. -/
theorem stripComments_eq_sweep (text : Text) :
    Bytes.stripComments text = .ok (stripComments text) ∧
      octets (stripComments text) = sweep (.sql .code) (octets text) :=
  ⟨Bytes.stripComments_eq text, by rw [stripComments, stripFrom_eq_sweep, octets_sweep]⟩

-- The star that begins a block comment does not end it, and an open comment is one space, too.
example : sweep (.sql .code) "a/*/b*/c--d/*" = "a c" := by decide +kernel
example : sweep (.sql .code) "'--' /* open" = "'--'  " := by decide +kernel

end SeedCoverage.Sql

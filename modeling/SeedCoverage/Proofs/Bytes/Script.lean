import SeedCoverage.Proofs.Bytes.Split
import SeedCoverage.Proofs.Script.Carving

/-! Stripping comments and carving out statements by offset. What is kept is cut from the offset
behind the last comment to that of the next one, and a statement from its first words through its
semicolon. -/
namespace SeedCoverage.Sql.Bytes

open Text

/-- The part of a text up to the end of a block comment, and with it. -/
def block : Text → Text
  | [] => []
  | [c] => [c]
  | c :: d :: rest => if c = '*' ∧ d = '/' then [c, d] else c :: block (d :: rest)

/-- What is put for a comment that begins at an offset, and the offset behind it. -/
def comment? (bytes : Text) (state : State) (offset : Nat) : Checked (Option (Text × Nat)) := do
  if state.inQuotes then return none
  else
    let ahead ← bytesFrom bytes offset
    if ahead.take 2 = ['-', '-'] then
      return some ([], offset + (ahead.takeWhile (· != '\n')).length)
    else if ahead.take 2 = ['/', '*'] then
      return some ([' '], offset + 2 + (block (← bytesFrom bytes (offset + 2))).length)
    else return none

/-- The state behind a step, and how many bytes it takes. -/
def advance (state : State) (byte : Char) (next : Option Char) : State × Nat :=
  let lexeme := Lexeme.at none state byte next
  (state.after lexeme, lexeme.text.length)

/-- The text without comments from `copied` on, read on from `offset`. -/
def stripFrom (sql : Text) (copied : Nat) (state : State) (offset : Nat) : Checked Text := do
  match (octets sql).drop offset with
  | [] => cutFrom sql copied
  | byte :: rest =>
    match ← comment? (octets sql) state offset with
    | some (blank, next) =>
      let kept ← cut sql copied offset
      if _moved : offset < next ∧ next ≤ byteSize sql then
        return kept ++ blank ++ (← stripFrom sql next state next)
      else throw .stalled
    | none =>
      match advance state byte rest.head? with
      | (after, size) =>
        if _moved : 0 < size ∧ offset + size ≤ byteSize sql then
          stripFrom sql copied after (offset + size)
        else throw .stalled
termination_by byteSize sql - offset

def stripComments (sql : Text) : Checked Text := stripFrom sql 0 .start 0

/-- How far the first `insert into` is away. -/
def insertPlace? : Text → Option Nat
  | [] => none
  | byte :: rest =>
    if startsWith insertInto (byte :: rest) then some 0 else (insertPlace? rest).map (· + 1)

/-- The statements from an offset on. -/
def statementsFrom (sql : Text) (cursor : Nat) : Checked (List Text) := do
  match insertPlace? ((octets sql).drop cursor) with
  | none => return []
  | some place =>
    match ← findEnd sql (cursor + place) with
    | none => return []
    | some (_, last) =>
      let statement ← cut sql (cursor + place) last
      if _moved : cursor < last ∧ last ≤ byteSize sql then
        return statement :: (← statementsFrom sql last)
      else throw .stalled
termination_by byteSize sql - cursor

def statements (sql : Text) : Checked (List Text) := statementsFrom sql 0

section Block

variable {c : Char} {rest run : Text}

theorem block_cons (inside : ¬(c = '*' ∧ rest.head? = some '/')) :
    block (c :: rest) = c :: block rest := by
  cases rest with
  | nil => rfl
  | cons d rest =>
    rw [block, if_neg fun both => inside ⟨both.1, congrArg some both.2⟩]

theorem block_high (high : ∀ byte ∈ run, isAsciiChar byte = false) (rest : Text) :
    block (run ++ rest) = run ++ block rest := by
  induction run with
  | nil => rfl
  | cons byte run ih =>
    have other : byte ≠ '*' := ne_of_high (high byte (by simp)) rfl
    rw [List.cons_append, block_cons fun both => other both.1,
      ih fun d member => high d (by simp [member])]
    rfl

theorem block_octets (text : Text) : block (octets text) = octets (block text) := by
  induction text with
  | nil => rfl
  | cons c rest ih =>
    cases ascii : isAsciiChar c with
    | false =>
      have other : c ≠ '*' := ne_of_high ascii rfl
      rw [octets_cons, block_high (high_of_mem_octets ascii), ih,
        block_cons fun both => other both.1, octets_cons c (block rest)]
    | true =>
      by_cases closes : c = '*' ∧ rest.head? = some '/'
      · obtain ⟨rfl, slash⟩ := closes
        obtain ⟨more, rfl⟩ := List.head?_eq_some_iff.mp slash
        rw [octets_ascii_cons rfl, octets_ascii_cons rfl]
        rfl
      · have inside : ¬(c = '*' ∧ (octets rest).head? = some '/') := by
          rwa [head?_octets_eq_some rfl]
        rw [octets_ascii_cons ascii, block_cons inside, ih, block_cons closes,
          octets_ascii_cons ascii]

/-- Behind a block comment the text goes on outside quotes. -/
theorem exists_block (text : Text) :
    ∃ more, text = block text ++ more ∧
      Sql.stripFrom .blockComment text = Sql.stripFrom (.sql .code) more := by
  fun_induction block text with
  | case1 => exact ⟨[], rfl, rfl⟩
  | case2 => exact ⟨[], rfl, rfl⟩
  | case3 c d rest closes => exact ⟨rest, rfl, by rw [Sql.stripFrom, if_pos closes]⟩
  | case4 c d rest other ih =>
    obtain ⟨more, whole, same⟩ := ih
    refine ⟨more, by rw [List.cons_append, ← whole], ?_⟩
    rw [Sql.stripFrom, if_neg other, same]

theorem stripFrom_line (text : Text) :
    Sql.stripFrom .lineComment text = Sql.stripFrom (.sql .code) (text.dropWhile (· != '\n')) := by
  induction text with
  | nil => rfl
  | cons c rest ih =>
    by_cases feed : c = '\n'
    · subst feed
      rw [stripFrom_newline (.inr rfl), List.dropWhile_cons_of_neg (by simp),
        stripFrom_newline (.inl rfl)]
    · rw [List.dropWhile_cons_of_pos (by simpa using feed), ← ih]
      cases rest with
      | nil => simp [Sql.stripFrom, feed]
      | cons d rest => rw [Sql.stripFrom, if_neg feed]

end Block

section Strip

variable {sql front kept back bytes rest : Text} {state : State} {offset copied : Nat} {c : Char}

theorem take_two_octets {first second : Char} (ascii : isAsciiChar first = true)
    (ascii' : isAsciiChar second = true) :
    (octets back).take 2 = [first, second] ↔ ∃ more, back = first :: second :: more := by
  constructor
  · intro signs
    have head : (octets back).head? = some first := by
      have := congrArg List.head? signs
      rwa [List.head?_take, if_neg (by decide)] at this
    obtain ⟨rest, rfl⟩ := List.head?_eq_some_iff.mp ((head?_octets_eq_some ascii back).mp head)
    rw [octets_ascii_cons ascii, List.take_succ_cons, List.cons.injEq] at signs
    have next : (octets rest).head? = some second := by
      have := congrArg List.head? signs.2
      rwa [List.head?_take, if_neg (by decide)] at this
    obtain ⟨more, rfl⟩ := List.head?_eq_some_iff.mp ((head?_octets_eq_some ascii' rest).mp next)
    exact ⟨more, rfl⟩
  · rintro ⟨more, rfl⟩
    rw [octets_ascii_cons ascii, octets_ascii_cons ascii']
    rfl

theorem stripFrom_comment {blank gone more : Text} (some_letter : gone ≠ [])
    (found : comment? (octets (front ++ (kept ++ (gone ++ more)))) state (byteSize (front ++ kept)) =
      .ok (some (blank, byteSize (front ++ (kept ++ gone)))))
    (goes : stripFrom (front ++ (kept ++ (gone ++ more))) (byteSize (front ++ (kept ++ gone))) state
      (byteSize (front ++ (kept ++ gone))) = .ok back) :
    stripFrom (front ++ (kept ++ (gone ++ more))) (byteSize front) state (byteSize (front ++ kept)) =
      .ok (kept ++ blank ++ back) := by
  have ahead : (octets (front ++ (kept ++ (gone ++ more)))).drop (byteSize (front ++ kept)) =
      octets (gone ++ more) := by
    rw [← List.append_assoc, drop_octets]
  obtain ⟨byte, bytes, whole⟩ : ∃ byte bytes, octets (gone ++ more) = byte :: bytes := by
    refine List.exists_cons_of_ne_nil (List.ne_nil_of_length_pos ?_)
    have := byteSize_pos some_letter
    rw [length_octets, byteSize_append]
    omega
  have piece : cut (front ++ (kept ++ (gone ++ more))) (byteSize front) (byteSize (front ++ kept)) =
      .ok kept := cut_ok rfl rfl rfl
  have moved : byteSize (front ++ kept) < byteSize (front ++ (kept ++ gone)) ∧
      byteSize (front ++ (kept ++ gone)) ≤ byteSize (front ++ (kept ++ (gone ++ more))) := by
    have := byteSize_pos some_letter
    simp only [byteSize_append]
    omega
  rw [stripFrom, ahead, whole]
  simp only [found, bind, Except.bind, piece]
  rw [dif_pos moved, goes]
  rfl

theorem Lexeme.length_at (state : State) (byte : Char) (ahead : Text) :
    0 < (Lexeme.at none state byte ahead.head?).text.length ∧
      (Lexeme.at none state byte ahead.head?).text.length ≤ ahead.length + 1 := by
  by_cases pair : Lexeme.at none state byte ahead.head? = .quotePair
  · cases ahead with
    | nil => exact absurd pair Lexeme.at_none_ne_pair
    | cons next rest =>
      rw [pair]
      simp [Lexeme.text]
  · rw [Lexeme.text_at pair]
    simp

/-- Where no comment begins, the reading goes on behind what it reads. -/
theorem stripFrom_advance {byte : Char} {ahead : Text}
    (reads : (octets sql).drop offset = byte :: ahead)
    (absent : comment? (octets sql) state offset = .ok none) :
    stripFrom sql copied state offset =
      stripFrom sql copied (state.after (Lexeme.at none state byte ahead.head?))
        (offset + (Lexeme.at none state byte ahead.head?).text.length) := by
  obtain ⟨positive, inside⟩ := Lexeme.length_at state byte ahead
  have size := congrArg List.length reads
  rw [List.length_drop, length_octets, List.length_cons] at size
  have moved : 0 < (advance state byte ahead.head?).2 ∧
      offset + (advance state byte ahead.head?).2 ≤ byteSize sql := by
    rw [advance]
    omega
  conv => lhs; rw [stripFrom, reads]
  simp only [absent, bind, Except.bind]
  rw [dif_pos moved]
  rfl

theorem comment?_absent (inside : offset ≤ bytes.length)
    (other : state.quote = .code → (bytes.drop offset).take 2 ≠ ['-', '-'] ∧
      (bytes.drop offset).take 2 ≠ ['/', '*']) :
    comment? bytes state offset = .ok none := by
  rw [comment?]
  split
  · rfl
  · rename_i code
    obtain ⟨line, opens⟩ := other (by simpa [State.inQuotes] using code)
    rw [bytesFrom_ok inside]
    simp only [bind, Except.bind]
    rw [if_neg line, if_neg opens]
    rfl

theorem stripFrom_high {run before behind : Text} (high : ∀ byte ∈ run, isAsciiChar byte = false)
    (whole : octets sql = before ++ (run ++ behind)) (place : offset = before.length) :
    stripFrom sql copied state offset = stripFrom sql copied state (offset + run.length) := by
  induction run generalizing before offset with
  | nil => rfl
  | cons byte run ih =>
    have outside := high byte (by simp)
    have reads : (octets sql).drop offset = byte :: (run ++ behind) := by
      rw [whole, place, List.drop_left]
      rfl
    have absent : comment? (octets sql) state offset = .ok none := by
      refine comment?_absent (by rw [whole, place]; simp) fun _ => ?_
      rw [reads]
      have dash : byte ≠ '-' := ne_of_high outside rfl
      have slash : byte ≠ '/' := ne_of_high outside rfl
      simp [dash, slash]
    have lexeme := Lexeme.at_high ascii_none state outside
      (run ++ behind).head?
    have still : state.after (.char byte) = state := state.read_high outside
    rw [stripFrom_advance reads absent, lexeme, still]
    have later := @ih (offset + 1) (before ++ [byte]) (fun d member => high d (by simp [member]))
      (by rw [whole]; simp) (by simp [place])
    rw [List.length_cons, Nat.add_comm run.length 1, ← Nat.add_assoc]
    exact later

theorem comment?_line (code : state.quote = .code) (front more : Text) :
    comment? (octets (front ++ '-' :: '-' :: more)) state (byteSize front) =
      .ok (some ([], byteSize (front ++ ('-' :: '-' :: more).takeWhile (· != '\n')))) := by
  have quoted : ¬state.inQuotes = true := by simp [State.inQuotes, code]
  have inside := byteSize_le_octets front ('-' :: '-' :: more)
  have feed : Bytewise (· != '\n') :=
    .of_high true fun c high => bne_iff_ne.mpr (ne_of_high high rfl)
  rw [comment?, if_neg quoted, bytesFrom_ok inside, drop_octets]
  simp only [bind, Except.bind]
  rw [if_pos ((take_two_octets rfl rfl).mpr ⟨more, rfl⟩), feed.takeWhile_octets, length_octets,
    byteSize_append]
  rfl

theorem comment?_block (code : state.quote = .code) (front more : Text) :
    comment? (octets (front ++ '/' :: '*' :: more)) state (byteSize front) =
      .ok (some ([' '], byteSize (front ++ '/' :: '*' :: block more))) := by
  have quoted : ¬state.inQuotes = true := by simp [State.inQuotes, code]
  have sign : byteSize ['/', '*'] = 2 := rfl
  have parts (rest : Text) : front ++ '/' :: '*' :: rest = front ++ ['/', '*'] ++ rest := by simp
  have behind : byteSize (front ++ ['/', '*']) = byteSize front + 2 := by rw [byteSize_append, sign]
  have inside : byteSize front + 2 ≤ (octets (front ++ '/' :: '*' :: more)).length := by
    rw [parts, ← behind]
    exact byteSize_le_octets _ more
  have body : (octets (front ++ '/' :: '*' :: more)).drop (byteSize front + 2) = octets more := by
    rw [parts, ← behind, drop_octets]
  have single : (octets ('/' :: '*' :: more)).take 2 ≠ ['-', '-'] := by
    rw [(take_two_octets rfl rfl).mpr ⟨more, rfl⟩]
    decide
  rw [comment?, if_neg quoted, bytesFrom_ok (by omega), drop_octets]
  simp only [bind, Except.bind]
  rw [if_neg single, if_pos ((take_two_octets rfl rfl).mpr ⟨more, rfl⟩), bytesFrom_ok inside, body]
  simp only [block_octets, length_octets]
  rw [parts, byteSize_append _ (block more), behind]
  rfl

/-- No comment begins with a character. -/
def NoComment (quote : Quote) (c : Char) (rest : Text) : Prop :=
  quote = .code → ¬(c = '-' ∧ rest.head? = some '-') ∧ ¬(c = '/' ∧ rest.head? = some '*')

theorem comment?_none (plain : NoComment state.quote c rest) (front : Text) :
    comment? (octets (front ++ c :: rest)) state (byteSize front) = .ok none := by
  refine comment?_absent (byteSize_le_octets front _) fun code => ?_
  rw [drop_octets, Ne, Ne, take_two_octets rfl rfl, take_two_octets rfl rfl]
  obtain ⟨line, opens⟩ := plain code
  constructor
  · rintro ⟨more, whole⟩
    obtain ⟨rfl, rfl⟩ := List.cons_eq_cons.mp whole
    exact line ⟨rfl, rfl⟩
  · rintro ⟨more, whole⟩
    obtain ⟨rfl, rfl⟩ := List.cons_eq_cons.mp whole
    exact opens ⟨rfl, rfl⟩

/-- Where neither a comment nor a pair begins, one character is kept. -/
theorem stripFrom_single {quote : Quote} (plain : NoComment quote c rest)
    (pair : quote ≠ .double → ¬(c = '\'' ∧ rest.head? = some '\'')) :
    Sql.stripFrom (.sql quote) (c :: rest) = c :: Sql.stripFrom (.sql (quote.read c)) rest := by
  cases rest with
  | nil => simp [Sql.stripFrom]
  | cons d rest =>
    simp only [NoComment, List.head?_cons, Option.some.injEq] at plain pair
    rw [Sql.stripFrom, if_neg fun sign => (plain sign.1).1 sign.2,
      if_neg fun sign => (plain sign.1).2 sign.2, if_neg fun sign => pair sign.1 sign.2]

/-- From a state on, a text is stripped by its offsets as it is by its characters; `kept` is what has
been read since the last comment. -/
def Strips (state : State) (back : Text) : Prop :=
  ∀ front kept : Text,
    stripFrom (front ++ (kept ++ back)) (byteSize front) state (byteSize (front ++ kept)) =
      .ok (kept ++ Sql.stripFrom (.sql state.quote) back)

namespace Strips

variable {gone more : Text} {after : State}

theorem nil (state : State) : Strips state [] := by
  intro front kept
  have ahead : (octets (front ++ (kept ++ []))).drop (byteSize (front ++ kept)) = octets [] := by
    rw [← List.append_assoc, drop_octets]
  have nothing : octets [] = [] := rfl
  have last : cutFrom (front ++ (kept ++ [])) (byteSize front) = .ok (kept ++ []) :=
    cutFrom_ok rfl rfl
  rw [stripFrom, ahead, nothing]
  simp only [last, Sql.stripFrom]

/-- A comment is passed over. -/
theorem comment (blank : Text) (some_letter : gone ≠ [])
    (found : ∀ front, comment? (octets (front ++ (gone ++ more))) state (byteSize front) =
      .ok (some (blank, byteSize (front ++ gone))))
    (same : Sql.stripFrom (.sql state.quote) (gone ++ more) =
      blank ++ Sql.stripFrom (.sql state.quote) more)
    (later : Strips state more) : Strips state (gone ++ more) := by
  intro front kept
  have found := found (front ++ kept)
  have goes := later (front ++ (kept ++ gone)) []
  have text : front ++ (kept ++ gone) ++ ([] ++ more) = front ++ (kept ++ (gone ++ more)) := by simp
  rw [text, List.append_nil, List.nil_append] at goes
  rw [List.append_assoc, List.append_assoc] at found
  rw [stripFrom_comment some_letter found goes, same, List.append_assoc]

theorem line (code : state.quote = .code)
    (later : Strips state (('-' :: '-' :: more).dropWhile (· != '\n'))) :
    Strips state ('-' :: '-' :: more) := by
  have parts := List.takeWhile_append_dropWhile (p := (· != '\n')) (l := '-' :: '-' :: more)
  rw [← parts]
  refine comment [] (by simp) (fun front => ?_) ?_ later
  · rw [parts]
    exact comment?_line code front more
  · rw [parts, code, Sql.stripFrom, if_pos ⟨rfl, rfl, rfl⟩, stripFrom_line]
    rfl

theorem block {behind : Text} (code : state.quote = .code) (whole : more = Bytes.block more ++ behind)
    (same : Sql.stripFrom .blockComment more = Sql.stripFrom (.sql .code) behind)
    (later : Strips state behind) : Strips state ('/' :: '*' :: more) := by
  have parts : '/' :: '*' :: more = '/' :: '*' :: Bytes.block more ++ behind :=
    congrArg ('/' :: '*' :: ·) whole
  rw [parts]
  refine comment [' '] (by simp) (fun front => ?_) ?_ later
  · rw [← parts]
    exact comment?_block code front more
  · rw [← parts, code, Sql.stripFrom, if_neg (by decide), if_pos ⟨rfl, rfl, rfl⟩, same]
    rfl

/-- What is no comment is kept. -/
theorem keep (read : Text)
    (goes : ∀ front kept,
      stripFrom (front ++ (kept ++ (read ++ more))) (byteSize front) state (byteSize (front ++ kept)) =
        stripFrom (front ++ (kept ++ (read ++ more))) (byteSize front) after
          (byteSize (front ++ kept) + byteSize read))
    (same : Sql.stripFrom (.sql state.quote) (read ++ more) =
      read ++ Sql.stripFrom (.sql after.quote) more)
    (later : Strips after more) : Strips state (read ++ more) := by
  intro front kept
  have rest := later front (kept ++ read)
  have place : byteSize (front ++ (kept ++ read)) = byteSize (front ++ kept) + byteSize read := by
    rw [← List.append_assoc, byteSize_append]
  rw [place, List.append_assoc kept, List.append_assoc kept] at rest
  rw [goes, rest, same]

theorem high (outside : isAsciiChar c = false) (later : Strips state rest) :
    Strips state (c :: rest) := by
  have still := congrArg State.quote (state.read_high outside)
  rw [quote_read] at still
  have other {d : Char} (ascii : isAsciiChar d = true) : c ≠ d := ne_of_high outside ascii
  refine keep [c] (fun front kept => ?_) ?_ later
  · have bytes : octets (front ++ (kept ++ c :: rest)) =
        octets (front ++ kept) ++ (octets [c] ++ octets rest) := by
      rw [← octets_cons, ← octets_append, List.append_assoc]
    rw [← length_octets [c]]
    exact stripFrom_high (high_of_mem_octets outside) bytes (length_octets _).symm
  · refine (stripFrom_single (fun _ => ?_) fun _ both => other rfl both.1).trans ?_
    · exact ⟨fun both => other rfl both.1, fun both => other rfl both.1⟩
    · rw [still]
      rfl

theorem advance (ascii : isAsciiChar c = true) (plain : NoComment state.quote c rest)
    (front kept : Text) :
    stripFrom (front ++ (kept ++ c :: rest)) (byteSize front) state (byteSize (front ++ kept)) =
      stripFrom (front ++ (kept ++ c :: rest)) (byteSize front)
        (state.after (Lexeme.at none state c rest.head?))
        (byteSize (front ++ kept) + (Lexeme.at none state c rest.head?).text.length) := by
  have absent := comment?_none plain (front ++ kept)
  have reads : (octets (front ++ kept ++ c :: rest)).drop (byteSize (front ++ kept)) =
      c :: octets rest := by
    rw [drop_octets, octets_ascii_cons ascii]
  rw [List.append_assoc] at absent reads
  rw [stripFrom_advance reads absent, Lexeme.at_octets]

theorem pair (unquoted : state.quote ≠ .double) (later : Strips state more) :
    Strips state ('\'' :: '\'' :: more) := by
  have plain : NoComment state.quote '\'' ('\'' :: more) := fun _ => by simp
  have doubled : Lexeme.at none state '\'' (some '\'') = .quotePair := by
    simp [Lexeme.at, unquoted]
  refine keep ['\'', '\''] (fun front kept => ?_) ?_ later
  · refine (advance rfl plain front kept).trans ?_
    rw [List.head?_cons, doubled]
    rfl
  · change Sql.stripFrom (.sql state.quote) ('\'' :: '\'' :: more) = _
    rw [Sql.stripFrom, if_neg (by simp), if_neg (by simp), if_pos ⟨unquoted, rfl, rfl⟩]
    rfl

theorem single (ascii : isAsciiChar c = true) (plain : NoComment state.quote c rest)
    (one : Lexeme.at none state c rest.head? ≠ .quotePair) (later : Strips (state.read c) rest) :
    Strips state (c :: rest) := by
  refine keep [c] (fun front kept => ?_) ?_ later
  · refine (advance ascii plain front kept).trans ?_
    rw [Lexeme.at_of_single one, byteSize_singleton ascii]
    rfl
  · refine (stripFrom_single plain fun unquoted => ?_).trans (by rw [quote_read]; rfl)
    rintro ⟨rfl, half⟩
    simp [Lexeme.at, unquoted, half] at one

end Strips

theorem strips (state : State) (back : Text) : Strips state back := by
  induction size : back.length using Nat.strongRecOn generalizing state back with
  | _ length ih =>
    cases back with
    | nil => exact .nil state
    | cons c rest =>
      have shorter {more : Text} (fits : more.length ≤ rest.length) (state : State) :
          Strips state more :=
        ih more.length (by rw [← size]; exact Nat.lt_succ_of_le fits) state more rfl
      by_cases line : state.quote = .code ∧ c = '-' ∧ rest.head? = some '-'
      · obtain ⟨code, rfl, dash⟩ := line
        obtain ⟨more, rfl⟩ := List.head?_eq_some_iff.mp dash
        refine .line code (shorter ?_ state)
        rw [List.dropWhile_cons_of_pos (by decide)]
        exact (List.dropWhile_sublist _).length_le
      by_cases opens : state.quote = .code ∧ c = '/' ∧ rest.head? = some '*'
      · obtain ⟨code, rfl, star⟩ := opens
        obtain ⟨more, rfl⟩ := List.head?_eq_some_iff.mp star
        obtain ⟨behind, whole, same⟩ := exists_block more
        refine .block code whole same (shorter ?_ state)
        have total := congrArg List.length whole
        rw [List.length_append] at total
        rw [List.length_cons]
        omega
      have plain : NoComment state.quote c rest := fun code =>
        ⟨fun sign => line ⟨code, sign⟩, fun sign => opens ⟨code, sign⟩⟩
      cases ascii : isAsciiChar c with
      | false => exact .high ascii (shorter (Nat.le_refl _) state)
      | true =>
        by_cases doubled : Lexeme.at none state c rest.head? = .quotePair
        · cases rest with
          | nil => exact absurd doubled Lexeme.at_none_ne_pair
          | cons d more =>
            obtain ⟨rfl, rfl⟩ := Lexeme.eq_quotes_of_pair doubled
            refine .pair (fun quoted => ?_) (shorter (Nat.le_succ _) state)
            simp [Lexeme.at, quoted] at doubled
        · exact .single ascii plain doubled (shorter (Nat.le_refl _) (state.read c))

theorem stripComments_eq (sql : Text) : stripComments sql = .ok (Sql.stripComments sql) :=
  strips .start sql [] []

end Strip

section Statements

variable {text found : Text}

theorem insertInto_ascii : ∀ c ∈ insertInto, isAsciiChar c = true := by decide

theorem insertPlace?_high {run : Text} (high : ∀ byte ∈ run, isAsciiChar byte = false) (rest : Text) :
    insertPlace? (run ++ rest) = (insertPlace? rest).map (run.length + ·) := by
  induction run with
  | nil => simp
  | cons byte run ih =>
    have other : ¬startsWith insertInto (byte :: (run ++ rest)) = true := by
      intro starts
      have letter : byte.toLower = 'i'.toLower := startsWith_cons starts rfl
      refine ne_of_high (d := 'i') ?_ rfl letter
      rw [isAsciiChar_caseBlind, high byte (by simp)]
    rw [List.cons_append, insertPlace?, if_neg other, ih fun d member => high d (by simp [member]),
      Option.map_map]
    refine congrArg (Option.map · _) (funext fun place => ?_)
    simp only [Function.comp_apply, List.length_cons]
    omega

theorem insertPlace?_octets (text : Text) :
    (seekInsert? text = none ∧ insertPlace? (octets text) = none) ∨
      ∃ skipped found, text = skipped ++ found ∧ seekInsert? text = some found ∧
        insertPlace? (octets text) = some (byteSize skipped) := by
  induction text with
  | nil => exact .inl ⟨rfl, rfl⟩
  | cons c rest ih =>
    have later (apart : ¬startsWith insertInto (c :: rest) = true)
        (passes : insertPlace? (octets (c :: rest)) =
          (insertPlace? (octets rest)).map (byteSize [c] + ·)) :
        (seekInsert? (c :: rest) = none ∧ insertPlace? (octets (c :: rest)) = none) ∨
          ∃ skipped found, c :: rest = skipped ++ found ∧ seekInsert? (c :: rest) = some found ∧
            insertPlace? (octets (c :: rest)) = some (byteSize skipped) := by
      rw [passes, seekInsert?_cons, if_neg apart]
      rcases ih with ⟨absent, nowhere⟩ | ⟨skipped, found, whole, begins, place⟩
      · exact .inl ⟨absent, by rw [nowhere]; rfl⟩
      · refine .inr ⟨c :: skipped, found, by rw [whole]; rfl, begins, ?_⟩
        rw [place, Option.map_some, ← byteSize_append]
        rfl
    cases ascii : isAsciiChar c with
    | true =>
      have same := startsWith_octets insertInto_ascii (c :: rest)
      rw [octets_ascii_cons ascii] at same
      by_cases starts : startsWith insertInto (c :: rest) = true
      · refine .inr ⟨[], c :: rest, rfl, by rw [seekInsert?_cons, if_pos starts], ?_⟩
        rw [octets_ascii_cons ascii, insertPlace?, if_pos (same.trans starts)]
        rfl
      · refine later starts ?_
        rw [octets_ascii_cons ascii, insertPlace?, if_neg (same ▸ starts), byteSize_singleton ascii]
        exact congrArg (Option.map · _) (funext fun place => Nat.add_comm place 1)
    | false =>
      refine later (fun starts => ?_) ?_
      · have letter : c.toLower = 'i'.toLower := startsWith_cons starts rfl
        exact ne_of_high (d := 'i') ((isAsciiChar_caseBlind c).trans ascii) rfl letter
      · rw [octets_cons, insertPlace?_high (high_of_mem_octets ascii), length_octets]

theorem statementsFrom_eq (front back : Text) :
    statementsFrom (front ++ back) (byteSize front) = .ok (Sql.statements back) := by
  induction size : back.length using Nat.strongRecOn generalizing front back with
  | _ length ih =>
    rw [statementsFrom, drop_octets]
    rcases insertPlace?_octets back with ⟨absent, nowhere⟩ | ⟨skipped, found, whole, begins, place⟩
    · rw [nowhere, statements_absent absent]
      rfl
    · have text : front ++ back = front ++ skipped ++ found := by rw [List.append_assoc, whole]
      have start : byteSize front + byteSize skipped = byteSize (front ++ skipped) :=
        (byteSize_append _ _).symm
      simp only [place, start]
      rw [text, findEnd_eq]
      cases ends : findStatementEnd found with
      | none =>
        rw [statements_endless begins ends]
        rfl
      | some ending =>
        have parts := findStep_whole ends
        obtain ⟨semicolon, _⟩ := findStatementEnd_spec ends
        have statement : cut (front ++ skipped ++ found) (byteSize (front ++ skipped))
            (byteSize (front ++ skipped ++ (ending.before ++ ending.found))) =
              .ok (ending.before ++ ending.found) :=
          cut_ok (by rw [List.append_assoc ending.before, parts]) rfl rfl
        have shorter : ending.after.length < length := by
          rw [← size, whole, ← parts, semicolon]
          simp only [List.length_append, List.length_cons]
          omega
        have later :=
          ih _ shorter (front ++ skipped ++ (ending.before ++ ending.found)) ending.after rfl
        rw [List.append_assoc (front ++ skipped), List.append_assoc ending.before, parts] at later
        have moved :
            byteSize front < byteSize (front ++ skipped ++ (ending.before ++ ending.found)) ∧
              byteSize (front ++ skipped ++ (ending.before ++ ending.found)) ≤
                byteSize (front ++ skipped ++ found) := by
          have some_letter : 0 < byteSize ending.found := byteSize_pos (by simp [semicolon])
          rw [← parts]
          simp only [byteSize_append]
          omega
        rw [statements_found begins ends]
        simp only [Option.map_some, span, bind, Except.bind, statement]
        rw [dif_pos moved, later]
        rfl

theorem statements_eq (sql : Text) : statements sql = .ok (Sql.statements sql) :=
  statementsFrom_eq [] sql

end Statements

end SeedCoverage.Sql.Bytes

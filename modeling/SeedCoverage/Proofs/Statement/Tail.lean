import SeedCoverage.Proofs.Statement.Align
import SeedCoverage.Proofs.Statement.Select
import SeedCoverage.Proofs.Statement.Value
import SeedCoverage.Proofs.Text.Case

/-! A clause with a tail behind its projection: a condition, a conflict clause, or what to return. The
projection is read up to the tail where the tail holds no FROM. Where it holds one, the last token takes
in the tail up to there, and the clause is taken to read from a relation. -/
namespace SeedCoverage.Sql

open Text

/-- At the top level of a literal there are only quotes, with which no closing phrase begins. -/
private theorem phraseIn_quote {phrase : Text} (closer : phrase ∈ closers) (content : Text) :
    phraseIn phrase (quote content) = none := by
  have quotes : Reads (fun state lexeme => state.atTop = true → lexeme.text.head? = some '\'') .start
      (quote content) .start :=
    .quote rfl (fun _ => rfl) (fun _ => rfl) (fun _ top => by cases top) content
  have letter : ∀ phrase ∈ closers,
      (phraseHead? (words phrase)).any (fun first => '\''.toLower != first.toLower) = true := by
    decide
  obtain ⟨first, head, differs⟩ := (Option.any_eq_true _ _).mp (letter phrase closer)
  have quiet : Quiet (words phrase) (quote content) [] := by
    intro previous step member
    rw [Step.phraseSize?]
    split
    · rename_i top
      have begins : (step.extend []).ahead.head? = some '\'' := by
        have mark := quotes.each_of previous step member top
        simp [Step.ahead, mark]
      rw [phraseSize?, wordsSize?_head head begins (by simpa using differs)]
      simp
    · rfl
  exact quiet.findPhrase_eq_none

theorem Closed.of_value (value : Option Text) : Closed (renderValue value) where
  filled := (Cell.of_value value).filled
  trimmed := (renderValue_trimmed value).trim_eq
  balanced := (Cell.of_value value).balanced
  uncut := by
    have word (c : Char) (letter : isWordChar c = true) : c ≠ ',' ∧ c ≠ ';' :=
      ⟨ne_of_wordChar letter (by decide), ne_of_wordChar letter (by decide)⟩
    have reads : Reads (fun state lexeme => state.atTop = true →
        lexeme ≠ .char ',' ∧ lexeme ≠ .char ';') .start (renderValue value) .start :=
      .value rfl (fun c letter _ => by simpa using word c letter) (by decide) (by decide)
        (fun _ top => by cases top) value
    exact reads.each
  free phrase closer := by
    cases value with
    | none =>
      revert phrase
      decide
    | some content => exact phraseIn_quote closer content

/-- A tail begins with a phrase that ends a projection. It leaves nothing open, and neither a semicolon
nor UNION ALL stands at its top level. -/
structure Tail (text : Text) : Prop where
  begins : ∃ phrase ∈ tailPhrases, (phraseSize? (words phrase) none text).isSome = true
  reads : Reads unended .start text .start
  single : phraseIn "union all" text = none

instance (text : Text) : Decidable (Tail text) :=
  decidable_of_iff ((∃ phrase ∈ tailPhrases, (phraseSize? (words phrase) none text).isSome = true) ∧
    Reads unended .start text .start ∧ phraseIn "union all" text = none)
    ⟨fun ⟨begins, reads, single⟩ => ⟨begins, reads, single⟩,
      fun ⟨begins, reads, single⟩ => ⟨begins, reads, single⟩⟩

/-- The letters with which a tail begins, in lower case. -/
def tailLetters : List Char := ['w', 'o', 'r']

section Letter

variable {c : Char} (letter : c.toLower ∈ tailLetters)

include letter

theorem isBlank_of_tailLetter : isBlank c = false := by
  have filled : ∀ d ∈ tailLetters, isBlank d = false := by decide
  rw [← isBlank_caseBlind c]
  exact filled _ letter

theorem ne_of_tailLetter {d : Char} (other : d.toLower ∉ tailLetters) : c ≠ d := by
  rintro rfl
  exact other letter

theorem unmarked_of_tailLetter : isMark c = false := by
  have differs (d : Char) (other : d.toLower ∉ tailLetters) : c ≠ d := ne_of_tailLetter letter other
  simp [isMark, differs '\'' (by decide), differs '"' (by decide), differs '(' (by decide),
    differs ')' (by decide), differs '[' (by decide), differs ']' (by decide)]

end Letter

theorem Tail.exists_letter {text : Text} (tail : Tail text) :
    ∃ c rest, text = c :: rest ∧ c.toLower ∈ tailLetters := by
  obtain ⟨phrase, member, begins⟩ := tail.begins
  have heads : ∀ phrase ∈ tailPhrases, phraseSize? (words phrase) none [] = none ∧
      (phraseHead? (words phrase)).any (fun first => tailLetters.contains first.toLower) = true := by
    decide
  obtain ⟨some_letter, head⟩ := heads phrase member
  obtain ⟨first, head, known⟩ := (Option.any_eq_true _ _).mp head
  cases text with
  | nil =>
    rw [some_letter] at begins
    cases begins
  | cons c rest =>
    refine ⟨c, rest, rfl, ?_⟩
    by_cases same : c.toLower = first.toLower
    · rw [same]
      exact List.contains_iff_mem.mp known
    · have absent : wordsSize? (words phrase) (c :: rest) = none := wordsSize?_head head rfl same
      simp [phraseSize?, absent] at begins

section Behind

variable {text phrase front : Text}

/-- No closing phrase goes on into a tail. -/
theorem Tail.bars (tail : Tail text) (closer : phrase ∈ closers) :
    Bars (words phrase) (' ' :: text) := by
  obtain ⟨c, rest, rfl, letter⟩ := tail.exists_letter
  have outside : ∀ phrase ∈ closers, ∀ word ∈ words phrase, ' '.toLower ∉ lower word := by decide
  have later : ∀ phrase ∈ closers, ∀ word ∈ (words phrase).tail,
      word.head?.any (fun first => !tailLetters.contains first.toLower) = true := by decide
  refine ⟨?_, fun word member => Bool.eq_false_iff.mpr fun starts => ?_⟩
  · rintro _ ⟨⟩
    exact outside phrase closer
  · have filled : ¬isAsciiBlank c = true := fun blank =>
      Bool.false_ne_true ((isBlank_of_tailLetter letter).symm.trans (isBlank_of_isAsciiBlank blank))
    obtain ⟨first, head, known⟩ := (Option.any_eq_true _ _).mp (later phrase closer word member)
    rw [List.dropWhile_cons_of_pos rfl, List.dropWhile_cons_of_neg filled] at starts
    rw [← startsWith_cons starts head] at known
    simp [letter] at known

theorem findPhrase_behind (closer : phrase ∈ closers)
    (quiet : Quiet (words phrase) front (' ' :: text))
    (ends : State.start.afterText none front = .start) (previous : Option Char) :
    findPhrase (words phrase) previous (front ++ ' ' :: text) =
      (phraseIn phrase text).map (Found.precede (front ++ [' '])) := by
  have blank : Quiet (words phrase) [' '] text :=
    .of_unstarted (unstarted_of_closer closer (by decide))
  have space : findPhrase (words phrase) (lastChar previous front) (' ' :: text) =
      (phraseIn phrase text).map (Found.precede [' ']) :=
    (blank.findPhrase_append (.of_last (by simp)) rfl).trans
      (congrArg _ (findPhrase_space (words phrase) text))
  rw [quiet.findPhrase_append (.of_head (by simp)) ends, space, Option.map_map]
  congr 1
  funext place
  simp [Found.precede]

end Behind

/-- The shortest of texts that all go on from `front` is `front`, if it is one of them. -/
theorem foldl_shortest {front first : Text} {texts : List Text} (whole : front <+: first)
    (each : ∀ text ∈ texts, front <+: text) (present : front ∈ texts ∨ first = front) :
    texts.foldl (fun shortest text => if text.length < shortest.length then text else shortest)
      first = front := by
  induction texts generalizing first with
  | nil => simpa using present
  | cons text rest ih =>
    have here := each text (by simp)
    have later : ∀ text ∈ rest, front <+: text := fun text member => each text (by simp [member])
    rw [List.foldl_cons]
    split
    · rename_i shorter
      refine ih here later ?_
      rcases present with member | rfl
      · exact (List.mem_cons.mp member).symm.imp_right Eq.symm
      · exact absurd here.length_le (Nat.not_le_of_lt shorter)
    · rename_i longer
      refine ih whole later ?_
      rcases present with member | same
      · rcases List.mem_cons.mp member with rfl | member
        · exact .inr (whole.eq_of_length_le (Nat.le_of_not_lt longer)).symm
        · exact .inl member
      · exact .inr same

section Clause

variable {text : Text} {row : Row} {place : Found}

theorem Tail.findPhrase_projection (tail : Tail text) (closed : ∀ token ∈ row, Closed token)
    {phrase : Text} (closer : phrase ∈ closers) :
    findPhrase (words phrase) (some 'T') (' ' :: listed row ++ ' ' :: text) =
      (phraseIn phrase text).map (Found.precede (' ' :: listed row ++ [' '])) := by
  have ends : State.start.afterText none (' ' :: listed row) = .start := by
    rw [afterText_single (Lexeme.at_char (by decide))]
    exact (reads_row closed).ends
  exact findPhrase_behind closer (quiet_projection closed closer (tail.bars closer)) ends _

theorem Tail.phraseIn_clause (tail : Tail text) (closed : ∀ token ∈ row, Closed token)
    {phrase : Text} (closer : phrase ∈ closers) :
    phraseIn phrase (clause row ++ ' ' :: text) =
      (phraseIn phrase text).map (Found.precede (clause row ++ [' '])) :=
  findPhrase_behind closer (quiet_clause closed closer (tail.bars closer)) (reads_clause closed).ends _

/-- A clause is cut off from its tail at the phrase with which the tail begins. -/
theorem Tail.beforeFirst_eq (tail : Tail text) (closed : ∀ token ∈ row, Closed token) :
    beforeFirst tailPhrases (some 'T') (' ' :: listed row ++ ' ' :: text) =
      ' ' :: listed row ++ [' '] := by
  have closing : ∀ phrase ∈ tailPhrases, phrase ∈ closers := by decide
  have behind (phrase : Text) (member : phrase ∈ tailPhrases) :=
    tail.findPhrase_projection closed (closing phrase member)
  -- The phrase with which the tail begins is found right behind the projection, any other later.
  refine foldl_shortest ⟨text, by simp⟩ (fun before member => ?_) (.inl ?_)
  · obtain ⟨phrase, present, found⟩ := List.mem_filterMap.mp member
    rw [behind phrase present, Option.map_map] at found
    obtain ⟨place, _, rfl⟩ := Option.map_eq_some_iff.mp found
    exact List.prefix_append _ _
  · obtain ⟨phrase, present, begins⟩ := tail.begins
    obtain ⟨size, measured⟩ := Option.isSome_iff_exists.mp begins
    obtain ⟨c, rest, rfl, letter⟩ := tail.exists_letter
    have some_word : ∀ phrase ∈ tailPhrases, words phrase ≠ [] := by decide
    have here : phraseIn phrase (c :: rest) = some ⟨[], (c :: rest).take size, (c :: rest).drop size⟩ :=
      findPhrase_here rfl (ne_of_tailLetter letter (by decide)) measured (some_word phrase present)
    refine List.mem_filterMap.mpr ⟨phrase, present, ?_⟩
    rw [behind phrase present, here]
    simp [Found.precede]

/-- What is projected ends at the first FROM of the tail, or else where the tail begins. -/
theorem Tail.projection_eq (tail : Tail text) (closed : ∀ token ∈ row, Closed token) :
    projection (clause row ++ ' ' :: text) =
      splitTop ',' (dropEndWhile (· == ';') (trim
        (' ' :: (listed row ++ ' ' :: ((phraseIn "from" text).map Found.before).getD [])))) := by
  have select : phraseIn "select" (clause row ++ ' ' :: text) =
      some ⟨[], "SELECT", ' ' :: listed row ++ ' ' :: text⟩ :=
    phraseIn_select (listed row ++ ' ' :: text)
  have source : findPhrase ["from"] (some 'T') (' ' :: listed row ++ ' ' :: text) =
      (phraseIn "from" text).map (Found.precede (' ' :: listed row ++ [' '])) := by
    have closer : "from".toList ∈ closers := by decide
    exact tail.findPhrase_projection closed closer
  have last : "SELECT".toList.getLast? = some 'T' := rfl
  simp only [projection, select, last, source]
  cases phraseIn "from" text with
  | none =>
    simp only [Option.map_none, Option.getD_none, tail.beforeFirst_eq closed]
    rfl
  | some place => simp [Found.precede]

theorem Tail.projection_clause (tail : Tail text) (some_token : row ≠ [])
    (closed : ∀ token ∈ row, Closed token) (absent : phraseIn "from" text = none) :
    projection (clause row ++ ' ' :: text) = row := by
  have filled := listed_ne_nil some_token closed
  have kept : trim (' ' :: (listed row ++ [' '])) = listed row := by
    rw [trim_cons (by decide), (trimmed_row closed).trim_concat filled (by decide)]
  rw [tail.projection_eq closed, absent, Option.map_none, Option.getD_none, kept]
  exact splitTop_row closed

theorem Tail.exists_before (tail : Tail text) (found : phraseIn "from" text = some place) :
    ∃ c more, place.before = c :: more ∧ c.toLower ∈ tailLetters := by
  obtain ⟨c, rest, rfl, letter⟩ := tail.exists_letter
  have differs : c.toLower ≠ 'f' := by
    intro same
    rw [same] at letter
    revert letter
    decide
  have quiet : Quiet (words "from") [c] rest := .of_unstarted ⟨'f', rfl, by simpa using differs⟩
  have apart : Apart [c] rest := .of_last (by simpa using ne_of_tailLetter letter (by decide))
  have ends : State.start.afterText none [c] = .start := by
    rw [afterText_single (Lexeme.at_char (ne_of_tailLetter letter (by decide)))]
    exact read_of_unmarked rfl (unmarked_of_tailLetter letter)
  have behind : phraseIn "from" (c :: rest) = _ := quiet.findPhrase_append apart ends
  rw [found] at behind
  obtain ⟨place', _, rfl⟩ := Option.map_eq_some_iff.mp behind.symm
  exact ⟨c, place'.before, rfl, letter⟩

/-- With a FROM, the last token takes in the tail up to there. -/
theorem Tail.projection_ne (tail : Tail text) (some_token : row ≠ [])
    (closed : ∀ token ∈ row, Closed token) (found : phraseIn "from" text = some place) :
    projection (clause row ++ ' ' :: text) ≠ row := by
  obtain ⟨c, more, before, letter⟩ := tail.exists_before found
  have start := (trimmed_row closed).trim_behind (listed_ne_nil some_token closed) [' ']
    (isBlank_of_tailLetter letter) more
  have unended (rest : Text) : dropEndWhile (· == ';') (listed row ++ [' '] ++ c :: rest) =
      listed row ++ [' '] ++ c :: dropEndWhile (· == ';') rest :=
    dropEndWhile_append_cons (by simpa using ne_of_tailLetter letter (by decide)) _ _
  have kept : dropEndWhile (· == ';') (trim (' ' :: (listed row ++ ' ' :: c :: more))) =
      listed row ++ ' ' :: c :: dropEndWhile (· == ';') (trimEnd more) := by
    rw [trim_cons (by decide), List.append_cons, start, unended]
    simp
  rw [tail.projection_eq closed, found, Option.map_some, Option.getD_some, before, kept]
  exact splitTop_listed_ne (isBlank_of_tailLetter letter) (ne_of_tailLetter letter (by decide))
    (ne_of_tailLetter letter (by decide)) _ some_token fun token member => (closed token member).cell

theorem Tail.unionClauses_eq (tail : Tail text) (trimmed : ∀ c ∈ text.getLast?, isBlank c = false)
    (closed : ∀ token ∈ row, Closed token) :
    unionClauses (clause row ++ ' ' :: text) = [clause row ++ ' ' :: text] := by
  have closer : "union all".toList ∈ closers := by decide
  have absent : findPhrase unionAll none (clause row ++ ' ' :: text) = none :=
    (tail.phraseIn_clause closed closer).trans (congrArg _ tail.single)
  have whole : Trimmed (clause row ++ ' ' :: text) := by
    obtain ⟨c, rest, rfl, letter⟩ := tail.exists_letter
    have select : Trimmed "SELECT" := ⟨by decide, by decide⟩
    have first : Trimmed (c :: rest) := ⟨by simpa using isBlank_of_tailLetter letter, trimmed⟩
    have lead : clause row ++ [' '] = "SELECT".toList ++ ' ' :: (listed row ++ [' ']) :=
      List.append_assoc "SELECT ".toList (listed row) [' ']
    rw [List.append_cons, lead]
    exact select.append first (by decide) (List.cons_ne_nil c rest)
  rw [unionClauses, unionPieces_absent absent, List.map_singleton, whole.trim_eq]
  exact List.filter_eq_self.mpr (by simp)

theorem Tail.selectRows_eq (tail : Tail text) (trimmed : ∀ c ∈ text.getLast?, isBlank c = false)
    (closed : ∀ token ∈ row, Closed token) :
    selectRows (clause row ++ ' ' :: text) =
      [projection (clause row ++ ' ' :: text)].filter fun row => !row.isEmpty := by
  rw [selectRows, tail.unionClauses_eq trimmed closed, List.map_singleton]

/-- A clause is taken to read from a relation just where a FROM stands in its tail. -/
theorem Tail.readsRelation_eq (tail : Tail text) (trimmed : ∀ c ∈ text.getLast?, isBlank c = false)
    (closed : ∀ token ∈ row, Closed token) :
    readsRelation (clause row ++ ' ' :: text) = (phraseIn "from" text).isSome := by
  have closer : "from".toList ∈ closers := by decide
  rw [readsRelation, tail.unionClauses_eq trimmed closed, List.any_cons, List.any_nil, Bool.or_false,
    tail.phraseIn_clause closed closer, Option.isSome_map]

end Clause

theorem Tail.last_ne_semicolon {tail : Text} (closing : Tail (trimEnd tail)) :
    ∀ c ∈ tail.getLast?, c ≠ ';' := by
  rintro c last rfl
  have kept : trimEnd tail = tail :=
    dropEndWhile_eq_self fun d member => Option.some.inj (last.symm.trans member) ▸ rfl
  rw [kept] at closing
  exact closing.reads.last_ne_semicolon ';' last rfl

/-- A statement that selects one row and goes on with a tail. -/
def tailStatement (table : Text) (columns : List Text) (row : Row) (tail : Text) : Text :=
  selectStatement table columns [row] ++ ' ' :: tail

/-- The statement is read up to the last character of its tail that is no blank. -/
theorem readInsert_tail {catalog : Catalog} {id : catalog.Id} {hint : Option Text}
    {columns : List Text} {row : Row} {tail : Text}
    (admits : hint.all (same (catalog.get id).name) = true) (some_column : columns ≠ [])
    (identifiers : ∀ column ∈ columns, isIdentifier column = true) (closing : Tail (trimEnd tail)) :
    readInsert catalog hint (tailStatement (catalog.get id).name columns row tail ++ [';']) =
      alignRows id columns (.select (selectRows (clause row ++ ' ' :: trimEnd tail))
        (clause row ++ ' ' :: trimEnd tail)) := by
  have filled : trimEnd tail ≠ [] := by
    obtain ⟨c, rest, cons, _⟩ := closing.exists_letter
    simp [cons]
  have front : "SELECT ".toList ++ (listed row ++ ' ' :: tail) = clause row ++ [' '] ++ tail :=
    (List.append_assoc _ _ _).symm.trans (List.append_cons _ _ _)
  have last : ∀ c ∈ ("SELECT " ++ (listed row ++ ' ' :: tail)).getLast?, c ≠ ';' := by
    have some_char : tail ≠ [] := by
      rintro rfl
      exact filled rfl
    rw [front, List.getLast?_append, Option.or_eq_left_of_isSome (by simpa using some_char)]
    exact closing.last_ne_semicolon
  have body : trimEnd ("SELECT " ++ (listed row ++ ' ' :: tail)) = clause row ++ ' ' :: trimEnd tail := by
    rw [front, trimEnd, dropEndWhile_append _ filled, ← List.append_cons]
    rfl
  have source := rowSource_select last
  rw [body] at source
  have shape : tailStatement (catalog.get id).name columns row tail ++ [';'] =
      insertHead (catalog.get id).name columns ++
        ' ' :: ("SELECT " ++ (listed row ++ ' ' :: tail ++ [';'])) := by
    have query : clause row ++ (' ' :: tail ++ [';']) =
        "SELECT ".toList ++ (listed row ++ ' ' :: tail ++ [';']) :=
      (List.append_assoc _ _ _).trans (congrArg _ (List.append_assoc _ _ _).symm)
    rw [← query, tailStatement, selectStatement, List.append_assoc, List.append_assoc]
    rfl
  rw [shape, readInsert_insertHead admits some_column identifiers, source]
  rfl

end SeedCoverage.Sql

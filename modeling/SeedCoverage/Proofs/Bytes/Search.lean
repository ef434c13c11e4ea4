import SeedCoverage.Proofs.Bytes.Reading
import SeedCoverage.Proofs.Search.Phrase
import SeedCoverage.Proofs.Text.Case

/-! Searches by offset. They look at bytes at every offset that the reading comes to, also inside a
character, and find the places that are found among the characters. -/
namespace SeedCoverage.Sql.Bytes

open Text

/-- The first offset that is accepted, and the one behind what is found there. -/
def seek (accept : Point → Checked (Option Nat)) : List Point → Checked (Option (Nat × Nat))
  | [] => return none
  | point :: rest => do
    match ← accept point with
    | some last => return some (point.offset, last)
    | none => seek accept rest

/-- The offset behind a word. -/
def matchWord (bytes : Text) (first : Nat) (word : Text) : Checked (Option Nat) := do
  let last := first + byteSize word
  if bytes.length < last then return none
  else if same (← bytesBetween bytes first last) (octets word) then return some last
  else return none

/-- The offset behind words with blanks between them. -/
def matchWords (bytes : Text) (first : Nat) : List Text → Checked (Option Nat)
  | [] => return some first
  | [word] => matchWord bytes first word
  | word :: next :: words => do
    match ← matchWord bytes first word with
    | none => return none
    | some last =>
      let gap := ((← bytesFrom bytes last).takeWhile isAsciiBlank).length
      if gap = 0 then return none
      else matchWords bytes (last + gap) (next :: words)

/-- Whether a name goes up to an offset. -/
def nameBefore (bytes : Text) (first : Nat) : Checked Bool :=
  if first = 0 then return false else (byteAt bytes (first - 1)).map isNameChar

/-- The offset behind a phrase that begins at an offset and stands by itself. -/
def matchPhrase (bytes : Text) (words : List Text) (first : Nat) : Checked (Option Nat) := do
  if ← nameBefore bytes first then return none
  else
    match ← matchWords bytes first words with
    | none => return none
    | some last => return if bytes[last]?.any isNameChar then none else some last

/-- Where the phrase that is looked for from an offset on begins and ends. -/
def findSpan (words : List Text) (text : Text) (start : Nat) : Checked (Option (Nat × Nat)) :=
  if words.isEmpty then return none
  else seek (fun point =>
    if point.state.atTop then matchPhrase (octets text) words point.offset else return none)
    (reading none text start)

/-- Where the statement ends that begins at an offset. -/
def findEnd (text : Text) (start : Nat) : Checked (Option (Nat × Nat)) :=
  seek (fun point =>
    return if point.state.atTop && point.isChar ';' then some (point.offset + 1) else none)
    (reading none text start)

/-- Where the parenthesis that opens at an offset is closed. -/
def findClosing (text : Text) (start : Nat) : Checked (Option (Nat × Nat)) :=
  if (octets text)[start]? = some '(' then
    seek (fun point =>
      return if point.isChar ')' && point.next.outsideParens then some (point.offset + 1) else none)
      (reading none text start)
  else return none

variable {accept : Point → Checked (Option Nat)} {words : List Text}
  {word bytes text front back : Text}
  {first start : Nat}

theorem matchWord_eq (inside : first ≤ bytes.length) (ascii : ∀ c ∈ word, isAsciiChar c = true) :
    matchWord bytes first word =
      .ok (if startsWith word (bytes.drop first) then some (first + word.length) else none) := by
  rw [matchWord, byteSize_eq_length ascii, octets_eq_self ascii]
  by_cases fits : bytes.length < first + word.length
  · have short : ¬startsWith word (bytes.drop first) = true := by
      intro starts
      have := length_le_of_startsWith starts
      rw [List.length_drop] at this
      omega
    rw [if_pos fits, if_neg short]
    rfl
  · have run :
        (bytes.take (first + word.length)).drop first = (bytes.drop first).take word.length := by
      rw [List.take_drop]
    rw [if_neg fits, bytesBetween_ok (Nat.le_add_right ..) (Nat.le_of_not_lt fits), run]
    rw [startsWith]
    simp only [bind, Except.bind]
    split <;> rfl

theorem matchWords_eq (inside : first ≤ bytes.length)
    (ascii : ∀ word ∈ words, ∀ c ∈ word, isAsciiChar c = true) :
    matchWords bytes first words = .ok ((wordsSize? words (bytes.drop first)).map (first + ·)) := by
  induction words generalizing first with
  | nil => rfl
  | cons word words ih =>
    cases words with
    | nil =>
      rw [matchWords, matchWord_eq inside (ascii word (by simp)), wordsSize?]
      split <;> rfl
    | cons next words =>
      simp only [matchWords, matchWord_eq inside (ascii word (by simp)), wordsSize?]
      split
      · rename_i starts
        have fits := length_le_of_startsWith starts
        rw [List.length_drop] at fits
        have behind : first + word.length ≤ bytes.length := by omega
        simp only [bind, Except.bind, bytesFrom_ok behind, ← List.drop_drop]
        cases gap : ((bytes.drop first).drop word.length).takeWhile isAsciiBlank with
        | nil => rfl
        | cons blank blanks =>
          have size := (List.takeWhile_sublist (l := (bytes.drop first).drop word.length)
            isAsciiBlank).length_le
          rw [gap, List.length_drop, List.length_drop] at size
          have later := @ih (first + word.length + (blank :: blanks).length) (by omega)
            fun other member => ascii other (List.mem_cons_of_mem word member)
          rw [if_neg (by simp), later]
          simp only [List.drop_drop, Option.map_map, Function.comp_def, Nat.add_assoc]
      · rfl

theorem nameBefore_eq (inside : first ≤ bytes.length) :
    nameBefore bytes first = .ok ((bytes.take first).getLast?.any isNameChar) := by
  rw [nameBefore, List.getLast?_take]
  split
  · rfl
  · obtain ⟨byte, found⟩ : ∃ byte, bytes[first - 1]? = some byte :=
      ⟨_, List.getElem?_eq_getElem (by omega)⟩
    rw [byteAt, found]
    rfl

theorem matchPhrase_eq (inside : first ≤ bytes.length)
    (ascii : ∀ word ∈ words, ∀ c ∈ word, isAsciiChar c = true) :
    matchPhrase bytes words first =
      .ok ((phraseSize? words (bytes.take first).getLast? (bytes.drop first)).map (first + ·)) := by
  rw [matchPhrase, nameBefore_eq inside, phraseSize?, matchWords_eq inside ascii]
  simp only [bind, Except.bind]
  split
  · rfl
  · cases wordsSize? words (bytes.drop first) with
    | none => rfl
    | some size =>
      simp only [Option.map_some, Option.filter_some, List.head?_drop, List.getElem?_drop]
      cases bytes[first + size]?.any isNameChar <;> rfl

/-- The first `size` characters are in ASCII. -/
structure AsciiTo (size : Nat) (text : Text) : Prop where
  fits : size ≤ text.length
  ascii : ∀ c ∈ text.take size, isAsciiChar c = true

namespace AsciiTo

variable {size more : Nat}

theorem take_octets_self (plain : AsciiTo size text) : octets (text.take size) = text.take size :=
  octets_eq_self plain.ascii

theorem byteSize_take (plain : AsciiTo size text) : byteSize (text.take size) = size := by
  rw [byteSize_eq_length plain.ascii, List.length_take, Nat.min_eq_left plain.fits]

theorem drop_octets (plain : AsciiTo size text) :
    (octets text).drop size = octets (text.drop size) := by
  have bytes := Text.drop_octets (text.take size) (text.drop size)
  rwa [List.take_append_drop, plain.byteSize_take] at bytes

theorem add (plain : AsciiTo size text) (behind : AsciiTo more (text.drop size)) :
    AsciiTo (size + more) text := by
  have length := behind.fits
  rw [List.length_drop] at length
  refine ⟨by have := plain.fits; omega, ?_⟩
  rw [List.take_add]
  intro c member
  rcases List.mem_append.mp member with front | back
  · exact plain.ascii c front
  · exact behind.ascii c back

theorem of_startsWith (ascii : ∀ c ∈ word, isAsciiChar c = true)
    (starts : startsWith word text = true) :
    AsciiTo word.length text := by
  refine ⟨length_le_of_startsWith starts, fun c member => ?_⟩
  have folded : lower (text.take word.length) = lower word := beq_iff_eq.mp starts
  have present : c.toLower ∈ lower word := folded ▸ List.mem_map_of_mem member
  obtain ⟨d, letter, same⟩ := List.mem_map.mp present
  rw [← isAsciiChar_caseBlind c, ← same, isAsciiChar_caseBlind d, ascii d letter]

theorem of_blanks (text : Text) : AsciiTo (text.takeWhile isAsciiBlank).length text := by
  have front := List.takeWhile_prefix (l := text) isAsciiBlank
  refine ⟨front.length_le, fun c member => ?_⟩
  rw [← List.prefix_iff_eq_take.mp front] at member
  have blank : isAsciiBlank c = true := List.all_eq_true.mp List.all_takeWhile c member
  cases high : isAsciiChar c with
  | true => rfl
  | false =>
    rw [isAsciiBlank_of_high high] at blank
    cases blank

end AsciiTo

theorem startsWith_octets (ascii : ∀ c ∈ word, isAsciiChar c = true) (text : Text) :
    startsWith word (octets text) = startsWith word text := by
  have step (c d : Char) (word text : Text) :
      startsWith (d :: word) (c :: text) = (c.toLower == d.toLower && startsWith word text) := by
    rw [startsWith, same, List.length_cons, List.take_succ_cons, lower_cons, lower_cons]
    exact List.cons_beq_cons
  induction word generalizing text with
  | nil => rfl
  | cons d word ih =>
    cases text with
    | nil => rfl
    | cons c rest =>
      cases plain : isAsciiChar c with
      | true =>
        rw [octets_ascii_cons plain, step, step, ih fun e member => ascii e (by simp [member])]
      | false =>
        have other {e : Char} (high : isAsciiChar e = false) : (e.toLower == d.toLower) = false := by
          refine beq_eq_false_iff_ne.mpr (ne_of_high ?_ ?_)
          · rw [isAsciiChar_caseBlind, high]
          · rw [isAsciiChar_caseBlind, ascii d (by simp)]
        obtain ⟨byte, bytes, whole⟩ := List.exists_cons_of_ne_nil (octets_ne_nil c)
        have high : isAsciiChar byte = false := high_of_mem_octets plain byte (by simp [whole])
        rw [octets_cons, whole, List.cons_append, step, step, other plain, other high]
        rfl

theorem wordsSize?_octets (ascii : ∀ word ∈ words, ∀ c ∈ word, isAsciiChar c = true) (text : Text) :
    wordsSize? words (octets text) = wordsSize? words text ∧
      ∀ size ∈ wordsSize? words text, AsciiTo size text := by
  fun_induction wordsSize? words text with
  | case1 text =>
    refine ⟨rfl, ?_⟩
    rintro _ ⟨⟩
    exact ⟨Nat.zero_le _, by simp⟩
  | case2 word text starts =>
    have plain := ascii word (by simp)
    have bytes := startsWith_octets plain text
    refine ⟨by rw [wordsSize?, bytes, if_pos starts], ?_⟩
    rintro _ ⟨⟩
    exact .of_startsWith plain starts
  | case3 word text stops =>
    have bytes := startsWith_octets (ascii word (by simp)) text
    exact ⟨by rw [wordsSize?, bytes, if_neg stops], by simp⟩
  | case4 word next words text starts unparted =>
    have plain := ascii word (by simp)
    have bytes := startsWith_octets plain text
    have front := AsciiTo.of_startsWith plain starts
    refine ⟨?_, by simp⟩
    simp only [wordsSize?, bytes, starts, ↓reduceIte, front.drop_octets,
      isAsciiBlank_bytewise.takeWhile_octets, unparted]
    rfl
  | case5 word next words text starts parted skipped ih =>
    have plain := ascii word (by simp)
    have bytes := startsWith_octets plain text
    have front := AsciiTo.of_startsWith plain starts
    have whole : AsciiTo skipped text := front.add (.of_blanks _)
    have blanks := (AsciiTo.of_blanks (text.drop word.length)).take_octets_self
    rw [← List.prefix_iff_eq_take.mp (List.takeWhile_prefix isAsciiBlank)] at blanks
    obtain ⟨same, sizes⟩ := ih fun other member => ascii other (List.mem_cons_of_mem word member)
    constructor
    · simp only [wordsSize?, bytes, starts, ↓reduceIte, front.drop_octets,
        isAsciiBlank_bytewise.takeWhile_octets, blanks]
      rw [whole.drop_octets]
      exact congrArg (Option.map (skipped + ·)) same
    · intro size member
      obtain ⟨more, found, rfl⟩ := Option.map_eq_some_iff.mp member
      exact whole.add (sizes more found)
  | case6 word next words text stops =>
    have bytes := startsWith_octets (ascii word (by simp)) text
    exact ⟨by rw [wordsSize?, bytes, if_neg stops], by simp⟩

theorem phraseSize?_octets (ascii : ∀ word ∈ words, ∀ c ∈ word, isAsciiChar c = true)
    (front back : Text) :
    phraseSize? words (octets front).getLast? (octets back) =
      phraseSize? words front.getLast? back := by
  obtain ⟨same, sizes⟩ := wordsSize?_octets ascii back
  rw [phraseSize?, phraseSize?, isNameChar_bytewise.getLast?_octets, same]
  split
  · rfl
  · cases found : wordsSize? words back with
    | none => rfl
    | some size =>
      rw [Option.filter_some, Option.filter_some, (sizes size found).drop_octets,
        isNameChar_bytewise.head?_octets]

theorem phraseSize?_asciiTo (ascii : ∀ word ∈ words, ∀ c ∈ word, isAsciiChar c = true)
    {previous : Option Char} {size : Nat} (found : phraseSize? words previous text = some size) :
    AsciiTo size text := by
  unfold phraseSize? at found
  split at found
  · cases found
  · exact (wordsSize?_octets ascii text).2 size (Option.filter_eq_some_iff.mp found).1

section Seek

theorem seek_filter {run : List Point}
    (quiet : ∀ point ∈ run, point.inAscii = false → accept point = .ok none) :
    seek accept run = seek accept (run.filter Point.inAscii) := by
  induction run with
  | nil => rfl
  | cons point rest ih =>
    have later := ih fun other member => quiet other (List.mem_cons_of_mem point member)
    cases ascii : point.inAscii with
    | true => rw [List.filter_cons_of_pos ascii, seek, seek, later]
    | false =>
      rw [List.filter_cons_of_neg (by simp [ascii]), seek, quiet point List.mem_cons_self ascii]
      exact later

theorem seek_map {place : Step → Point} {choose : Step → Option Nat} {run : List Step}
    (agree : ∀ step ∈ run, accept (place step) = .ok (choose step)) :
    seek accept (run.map place) =
      .ok (run.findSome? fun step => (choose step).map ((place step).offset, ·)) := by
  induction run with
  | nil => rfl
  | cons step rest ih =>
    have later := ih fun other member => agree other (List.mem_cons_of_mem step member)
    rw [List.map_cons, seek, agree step List.mem_cons_self, List.findSome?_cons, later]
    cases choose step <;> rfl

/-- A place between characters, by its offsets behind `front`. -/
def span (front : Text) (place : Found) : Nat × Nat :=
  (byteSize (front ++ place.before), byteSize (front ++ (place.before ++ place.found)))

/-- The byte at the offset of a point is outside ASCII. -/
def Point.High (bytes : Text) (point : Point) : Prop :=
  ∃ byte ∈ bytes[point.offset]?, isAsciiChar byte = false

private theorem high_of_parts (before ahead : Text) {byte : Char} {point : Point}
    (whole : bytes = before ++ ahead) (place : point.offset = before.length)
    (first : ahead.head? = some byte) (high : isAsciiChar byte = false) : point.High bytes := by
  obtain ⟨rest, rfl⟩ := List.head?_eq_some_iff.mp first
  refine ⟨byte, ?_, high⟩
  rw [whole, place, List.getElem?_append_right (Nat.le_refl _), Nat.sub_self]
  rfl

theorem Point.lexeme_of_high {point : Point} (other : point.inAscii = false) :
    ∃ c, point.lexeme = .char c ∧ isAsciiChar c = false := by
  rcases point with ⟨offset, state, lexeme⟩
  cases lexeme with
  | char c => exact ⟨c, rfl, other⟩
  | quotePair => cases other
  | cut c => cases other

/-- A search through the bytes finds the place that is found among the characters, if it never takes a
byte from outside ASCII and agrees with the search among the characters where one begins. -/
theorem seek_reading {take : Step → Option Nat} {previous : Option Char}
    (quiet : ∀ point : Point, point.inAscii = false → point.High (octets (front ++ back)) →
      accept point = .ok none)
    (agree : ∀ step ∈ scan none .start previous back,
      accept ⟨byteSize (front ++ step.before back), step.state, step.lexeme⟩ =
        .ok ((take step).map fun size =>
          byteSize (front ++ (step.before back ++ step.ahead.take size)))) :
    seek accept (reading none (front ++ back) (byteSize front)) =
      .ok ((findStep take previous back).map (span front)) := by
  have passBytes : ∀ point ∈
      points List.length (byteSize front) (scan none .start none (octets back)),
        point.inAscii = false → accept point = .ok none := by
    intro point member other
    obtain ⟨c, lexeme, high⟩ := point.lexeme_of_high other
    rw [points_eq_map fun _ _ => List.length_append] at member
    obtain ⟨step, present, rfl⟩ := List.mem_map.mp member
    refine quiet _ other (high_of_parts (octets front ++ step.before (octets back))
      step.ahead ?_ ?_ ?_ high)
    · rw [octets_append, List.append_assoc, before_append_ahead present]
    · rw [List.length_append, length_octets]
    · rw [Step.ahead, show step.lexeme = .char c from lexeme]
      rfl
  have passChars : ∀ point ∈ points byteSize (byteSize front) (scan none .start previous back),
      point.inAscii = false → accept point = .ok none := by
    intro point member other
    obtain ⟨c, lexeme, high⟩ := point.lexeme_of_high other
    rw [points_eq_map byteSize_append] at member
    obtain ⟨step, present, rfl⟩ := List.mem_map.mp member
    obtain ⟨byte, rest, whole⟩ := List.exists_cons_of_ne_nil (octets_ne_nil c)
    refine quiet _ other (high_of_parts (octets (front ++ step.before back))
      (octets step.ahead) ?_ ?_ ?_ (high_of_mem_octets high byte (by simp [whole])))
    · rw [← octets_append, List.append_assoc, before_append_ahead present]
    · rw [length_octets, byteSize_append]
    · rw [Step.ahead, show step.lexeme = .char c from lexeme, Lexeme.text, List.singleton_append,
        octets_cons, whole]
      rfl
  have found := points_octets ascii_none .start previous (byteSize front) back
  rw [reading, drop_octets, seek_filter passBytes, found, ← seek_filter passChars,
    points_eq_map byteSize_append]
  simp only [← byteSize_append]
  rw [seek_map agree, findStep, findFrom_eq, List.map_findSome?]
  refine congrArg (fun choose => Except.ok (List.findSome? choose _)) (funext fun step => ?_)
  simp only [Function.comp_apply, Step.cut?, Option.map_map, List.append_nil, List.reverse_reverse]
  rfl

/-- A search for one character of ASCII. -/
theorem seek_sign (sign : Char) (test : State → Lexeme → Bool) (ascii : isAsciiChar sign = true)
    (signs : ∀ state lexeme, test state lexeme = true → lexeme = .char sign) (front back : Text) :
    seek (fun point => return if test point.state point.lexeme then some (point.offset + 1) else none)
        (reading none (front ++ back) (byteSize front)) =
      .ok ((findStep (fun step => if test step.state step.lexeme then some 1 else none) none
        back).map (span front)) := by
  refine seek_reading (fun point other _ => ?_) fun step member => ?_
  · rw [if_neg]
    · rfl
    · intro holds
      have char : point.isChar sign = true := beq_iff_eq.mpr (signs _ _ holds)
      rw [Point.inAscii_of_isChar ascii char] at other
      cases other
  · cases holds : test step.state step.lexeme with
    | false => rfl
    | true =>
      have one : step.ahead.take 1 = [sign] := by
        rw [Step.ahead, signs _ _ holds]
        rfl
      rw [if_pos rfl, if_pos rfl, Option.map_some, one, ← List.append_assoc, byteSize_append _ [sign],
        byteSize_singleton ascii]
      rfl

theorem findEnd_eq (front back : Text) :
    findEnd (front ++ back) (byteSize front) = .ok ((findStatementEnd back).map (span front)) :=
  seek_sign ';' (fun state lexeme => state.atTop && lexeme == .char ';') rfl
    (fun _ _ holds => beq_iff_eq.mp (Bool.and_eq_true_iff.mp holds).2) front back

theorem findClosing_eq (front back : Text) :
    findClosing (front ++ back) (byteSize front) =
      .ok ((findClosingParen back).map (span front)) := by
  have opens : (octets (front ++ back))[byteSize front]? = some '(' ↔ back.head? = some '(' := by
    rw [← List.head?_drop, drop_octets, head?_octets_eq_some rfl]
  have found := seek_sign ')'
    (fun state lexeme => lexeme == .char ')' && (state.after lexeme).outsideParens) rfl
    (fun _ _ holds => beq_iff_eq.mp (Bool.and_eq_true_iff.mp holds).1) front back
  rw [findClosing, findClosingParen]
  simp only [opens]
  split
  · exact found
  · rfl

theorem phraseSize?_of_high (ascii : ∀ word ∈ words, ∀ c ∈ word, isAsciiChar c = true)
    (filled : ∀ word ∈ words, word ≠ []) (some_word : words ≠ []) {previous : Option Char}
    {byte : Char}
    (begins : text.head? = some byte) (high : isAsciiChar byte = false) :
    phraseSize? words previous text = none := by
  obtain ⟨word, others, rfl⟩ := List.exists_cons_of_ne_nil some_word
  obtain ⟨letter, letters, rfl⟩ := List.exists_cons_of_ne_nil (filled word (by simp))
  have differs : byte.toLower ≠ letter.toLower := by
    refine ne_of_high ?_ ?_
    · rw [isAsciiChar_caseBlind, high]
    · rw [isAsciiChar_caseBlind, ascii (letter :: letters) (by simp) letter (by simp)]
  rw [phraseSize?, wordsSize?_head rfl begins differs]
  split <;> rfl

theorem findSpan_eq (ascii : ∀ word ∈ words, ∀ c ∈ word, isAsciiChar c = true)
    (filled : ∀ word ∈ words, word ≠ []) (front back : Text) :
    findSpan words (front ++ back) (byteSize front) =
      .ok ((findPhrase words front.getLast? back).map (span front)) := by
  rw [findSpan, findPhrase]
  split
  · rfl
  · rename_i some_word
    have some_word : words ≠ [] := by simpa using some_word
    refine seek_reading (fun point other high => ?_) fun step member => ?_
    · obtain ⟨byte, found, outside⟩ := high
      have inside := (List.getElem?_eq_some_iff.mp found).1
      rw [← List.head?_drop] at found
      rw [matchPhrase_eq (Nat.le_of_lt inside) ascii,
        phraseSize?_of_high ascii filled some_word found outside]
      split <;> rfl
    · have whole := before_append_ahead member
      have last := lastChar_before member
      rw [lastChar, ← List.getLast?_append] at last
      have parts : front ++ back = front ++ step.before back ++ step.ahead := by
        rw [List.append_assoc, whole]
      rw [parts, matchPhrase_eq (byteSize_le_octets _ step.ahead) ascii, take_octets, drop_octets,
        phraseSize?_octets ascii, last, Step.phraseSize?]
      split
      · cases found : Sql.phraseSize? words step.previous step.ahead with
        | none => rfl
        | some size =>
          have plain := phraseSize?_asciiTo ascii found
          rw [Option.map_some, Option.map_some, ← List.append_assoc,
            byteSize_append _ (step.ahead.take size), plain.byteSize_take]
      · rfl

theorem findSpan_words {phrase : Text}
    (ascii : ∀ word ∈ Text.words phrase, ∀ c ∈ word, isAsciiChar c = true) (text : Text) :
    findSpan (Text.words phrase) text 0 = .ok ((phraseIn phrase text).map (span [])) :=
  findSpan_eq ascii wordsFrom_filled [] text

end Seek

end SeedCoverage.Sql.Bytes

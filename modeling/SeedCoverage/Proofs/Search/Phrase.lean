import SeedCoverage.Proofs.Search.Skip

/-! Where a phrase is not found. A text in which it does not begin stays without it in front of any
text that cannot finish a phrase begun in it. -/
namespace SeedCoverage.Sql

open Text

/-- The first letter of a phrase. -/
def phraseHead? (phrase : List Text) : Option Char := phrase.head?.bind List.head?

/-- No letter with which the phrase begins stands in `text`. -/
def Unstarted (phrase : List Text) (text : Text) : Prop :=
  ∃ first ∈ phraseHead? phrase, ∀ c ∈ text, c.toLower ≠ first.toLower

/-- A phrase that began before `right` cannot go on into it. -/
def Bars (phrase : List Text) (right : Text) : Prop :=
  (∀ c ∈ right.head?, ∀ word ∈ phrase, c.toLower ∉ lower word) ∧
    ∀ word ∈ phrase.tail, startsWith word (right.dropWhile isAsciiBlank) = false

/-- Read with `right` behind it, no step of `text` begins the phrase. -/
def Quiet (phrase : List Text) (text right : Text) : Prop :=
  ∀ previous, ∀ step ∈ scan none .start previous text, (step.extend right).phraseSize? phrase = none

theorem startsWith_cons {word text : Text} {c : Char} (starts : startsWith word (c :: text) = true)
    {first : Char} (head : word.head? = some first) : c.toLower = first.toLower := by
  cases word with
  | nil => simp at head
  | cons d rest =>
    obtain rfl : d = first := by simpa using head
    have same := beq_iff_eq.mp starts
    simp only [List.length_cons, List.take_succ_cons, lower, List.map_cons, List.cons.injEq] at same
    exact same.1

theorem wordsSize?_head {phrase : List Text} {text : Text} {first c : Char}
    (head : phraseHead? phrase = some first) (begins : text.head? = some c)
    (differs : c.toLower ≠ first.toLower) : wordsSize? phrase text = none := by
  obtain ⟨word, found, letter⟩ := Option.bind_eq_some_iff.mp head
  cases text with
  | nil => simp at begins
  | cons d rest =>
    obtain rfl : d = c := by simpa using begins
    have failed : startsWith word (d :: rest) = false :=
      Bool.eq_false_iff.mpr fun starts => differs (startsWith_cons starts letter)
    cases phrase with
    | nil => simp at found
    | cons other words =>
      obtain rfl : other = word := by simpa using found
      cases words <;> simp [wordsSize?, failed]

theorem startsWith_of_wordsSize? {word text : Text} {words : List Text} {size : Nat}
    (found : wordsSize? (word :: words) text = some size) : startsWith word text = true := by
  cases words <;> grind [wordsSize?]

/-- A word that begins in `text` and is not finished there cannot be finished in `right`. -/
theorem startsWith_append {word text right : Text}
    (bar : ∀ c ∈ right.head?, c.toLower ∉ lower word)
    (starts : startsWith word (text ++ right) = true) :
    startsWith word text = true ∧ word.length ≤ text.length := by
  have same : lower ((text ++ right).take word.length) = lower word := beq_iff_eq.mp starts
  have fits : word.length ≤ text.length := by
    refine Nat.le_of_not_lt fun short => ?_
    rw [List.take_append, List.take_of_length_le (Nat.le_of_lt short)] at same
    cases right with
    | nil =>
      have sizes := congrArg List.length same
      simp [lower] at sizes
      omega
    | cons c rest =>
      refine bar c rfl (same ▸ ?_)
      simp [lower, List.take_cons (Nat.sub_pos_of_lt short)]
  refine ⟨?_, fits⟩
  rwa [startsWith, List.take_append_of_le_length fits] at starts

/-- Behind a bar it makes no difference what follows. -/
theorem startsWith_append_eq {word text right : Text}
    (bar : ∀ c ∈ right.head?, c.toLower ∉ lower word) :
    startsWith word (text ++ right) = startsWith word text := by
  rw [Bool.eq_iff_iff]
  refine ⟨fun starts => (startsWith_append bar starts).1, fun starts => ?_⟩
  have sizes := congrArg List.length (beq_iff_eq.mp starts)
  simp only [length_lower, List.length_take] at sizes
  rwa [startsWith, List.take_append_of_le_length (by omega)]

theorem wordsSize?_cons_cons {word next text : Text} {words : List Text} {size : Nat} :
    wordsSize? (word :: next :: words) text = some size ↔
      startsWith word text = true ∧ (text.drop word.length).takeWhile isAsciiBlank ≠ [] ∧
        ∃ more, wordsSize? (next :: words)
            ((text.drop word.length).dropWhile isAsciiBlank) = some more ∧
          size = word.length + ((text.drop word.length).takeWhile isAsciiBlank).length + more := by
  have behind : text.drop (word.length + ((text.drop word.length).takeWhile isAsciiBlank).length) =
      (text.drop word.length).dropWhile isAsciiBlank := by
    rw [← List.drop_drop]
    conv => lhs; arg 2; rw [← List.takeWhile_append_dropWhile (p := isAsciiBlank)
      (l := text.drop word.length)]
    rw [List.drop_left]
  rw [wordsSize?]
  split
  · rename_i starts
    split
    · rename_i none_blank
      simp [starts, none_blank]
    · rename_i blanks some_blank
      simp only [behind, Option.map_eq_some_iff]
      constructor
      · rintro ⟨more, goes, total⟩
        exact ⟨starts, some_blank, more, goes, total.symm⟩
      · rintro ⟨_, _, more, goes, total⟩
        exact ⟨more, goes, total.symm⟩
  · rename_i stops
    simp [stops]

theorem wordsSize?_append {phrase : List Text} {text right : Text} {size : Nat}
    (bars : Bars phrase right) (found : wordsSize? phrase (text ++ right) = some size) :
    wordsSize? phrase text = some size ∧ size ≤ text.length := by
  induction phrase generalizing text size with
  | nil =>
    cases found
    simp [wordsSize?]
  | cons word words ih =>
    have bar : ∀ c ∈ right.head?, c.toLower ∉ lower word :=
      fun c member => bars.1 c member word (by simp)
    have later : Bars words right :=
      ⟨fun c member other present => bars.1 c member other (List.mem_cons_of_mem _ present),
        fun other present => bars.2 other (List.mem_of_mem_tail present)⟩
    obtain ⟨inside, fits⟩ := startsWith_append bar (startsWith_of_wordsSize? found)
    cases words with
    | nil =>
      simp only [wordsSize?, startsWith_of_wordsSize? found, ↓reduceIte, Option.some.injEq] at found
      simp [wordsSize?, inside, ← found, fits]
    | cons next words =>
      obtain ⟨-, some_blank, more, goes, rfl⟩ := wordsSize?_cons_cons.mp found
      rw [List.drop_append_of_le_length fits] at some_blank goes ⊢
      rw [List.dropWhile_append] at goes
      split at goes
      · -- Only blanks are left of `text`, so that the next word would have to begin in `right`.
        have refused := bars.2 next (by simp)
        rw [startsWith_of_wordsSize? goes] at refused
        cases refused
      · rename_i partly
        obtain ⟨inner, bound⟩ := ih later goes
        have parts := congrArg List.length
          (List.takeWhile_append_dropWhile (p := isAsciiBlank) (l := text.drop word.length))
        have gap : (text.drop word.length ++ right).takeWhile isAsciiBlank =
            (text.drop word.length).takeWhile isAsciiBlank := by
          rw [List.takeWhile_append, if_neg]
          intro whole
          rw [List.length_append, whole] at parts
          exact partly (by simpa using parts)
        rw [gap] at some_blank ⊢
        refine ⟨wordsSize?_cons_cons.mpr ⟨inside, some_blank, more, inner, rfl⟩, ?_⟩
        simp only [List.length_append, List.length_drop] at parts
        omega

theorem phraseSize?_append {phrase : List Text} {previous : Option Char} {text right : Text}
    {size : Nat} (bars : Bars phrase right)
    (found : phraseSize? phrase previous (text ++ right) = some size) :
    phraseSize? phrase previous text = some size := by
  unfold phraseSize? at found ⊢
  split at found
  · cases found
  · rename_i free
    obtain ⟨goes, ends⟩ := Option.filter_eq_some_iff.mp found
    obtain ⟨inner, fits⟩ := wordsSize?_append bars goes
    rw [if_neg free]
    refine Option.filter_eq_some_iff.mpr ⟨inner, ?_⟩
    rw [List.drop_append_of_le_length fits] at ends
    cases behind : text.drop size with
    | nil => rfl
    | cons c rest => simpa [behind] using ends

theorem phraseSize?_previous {phrase : List Text} {previous : Option Char} {text : Text}
    (absent : phraseSize? phrase none text = none) : phraseSize? phrase previous text = none := by
  unfold phraseSize? at absent ⊢
  split
  · rfl
  · simpa using absent

theorem Bars.of_head {phrase : List Text} {right : Text} {c : Char} (begins : right.head? = some c)
    (filled : isAsciiBlank c = false) (outside : ∀ word ∈ phrase, c.toLower ∉ lower word)
    (some_letter : ∀ word ∈ phrase.tail, word ≠ []) : Bars phrase right := by
  cases right with
  | nil => simp at begins
  | cons d rest =>
    obtain rfl : d = c := by simpa using begins
    refine ⟨by simpa using outside, fun word member => Bool.eq_false_iff.mpr fun starts => ?_⟩
    obtain ⟨first, letters, rfl⟩ := List.exists_cons_of_ne_nil (some_letter word member)
    rw [List.dropWhile_cons_of_neg (by simp [filled])] at starts
    have same := startsWith_cons starts rfl
    exact outside _ (List.mem_of_mem_tail member) (by simp [lower, same])

theorem Bars.nil {phrase : List Text} (some_letter : ∀ word ∈ phrase.tail, word ≠ []) :
    Bars phrase [] := by
  refine ⟨by simp, fun word member => ?_⟩
  obtain ⟨first, letters, rfl⟩ := List.exists_cons_of_ne_nil (some_letter word member)
  simp [startsWith, same, lower]

theorem head_of_mem_scan {delimiter : Option Char} {state : State} {previous : Option Char}
    {text : Text} {step : Step} (member : step ∈ scan delimiter state previous text) :
    ∃ c ∈ text, step.ahead.head? = some c := by
  fun_induction scan delimiter state previous text with
  | case1 => simp at member
  | case2 state previous c =>
    have one : (Lexeme.at delimiter state c none).text = [c] :=
      Lexeme.text_at Lexeme.at_none_ne_pair
    obtain rfl := List.mem_singleton.mp member
    exact ⟨c, by simp, by simp [Step.ahead, one]⟩
  | case3 state previous c d rest pair ih =>
    obtain ⟨rfl, rfl⟩ := Lexeme.eq_quotes_of_pair pair
    rcases List.mem_cons.mp member with rfl | later
    · exact ⟨'\'', by simp, rfl⟩
    · obtain ⟨e, present, begins⟩ := ih later
      exact ⟨e, by simp [present], begins⟩
  | case4 state previous c d rest single ih =>
    have one := Lexeme.text_at single
    rcases List.mem_cons.mp member with rfl | later
    · exact ⟨c, by simp, by simp [Step.ahead, one]⟩
    · obtain ⟨e, present, begins⟩ := ih later
      exact ⟨e, by simp only [List.mem_cons] at present ⊢; exact .inr present, begins⟩

theorem findPhrase_here {phrase : List Text} {previous : Option Char} {text : Text} {size : Nat}
    {c : Char} (begins : text.head? = some c) (plain : c ≠ '\'')
    (found : phraseSize? phrase previous text = some size) (some_word : phrase ≠ []) :
    findPhrase phrase previous text = some ⟨[], text.take size, text.drop size⟩ := by
  cases text with
  | nil => cases begins
  | cons d rest =>
    obtain rfl : d = c := by simpa using begins
    have accepted : Step.phraseSize? phrase ⟨.start, previous, .char d, rest⟩ = some size := found
    unfold findPhrase
    rw [if_neg (by simpa using some_word)]
    exact findFrom_here (Lexeme.at_char plain) accepted

theorem absent_of_findPhrase {phrase : List Text} {previous : Option Char} {text : Text}
    (some_word : phrase ≠ []) (absent : findPhrase phrase previous text = none) :
    ∀ step ∈ scan none .start previous text, step.phraseSize? phrase = none := by
  rw [findPhrase, if_neg (by simpa using some_word), findStep, findFrom_eq,
    List.findSome?_eq_none_iff] at absent
  intro step member
  simpa [Step.cut?] using absent step member

namespace Quiet

variable {phrase : List Text} {text left right more : Text} {previous : Option Char}

/-- A text that holds no phrase by itself holds none in front of a bar. -/
theorem of_steps (bars : Bars phrase right)
    (absent : ∀ step ∈ scan none .start none text, step.phraseSize? phrase = none) :
    Quiet phrase text right := by
  intro previous step member
  have alone : step.state.atTop = true → phraseSize? phrase step.previous step.ahead = none := by
    intro top
    rcases scan_previous none member with same | first
    · simpa [Step.phraseSize?, top] using absent step same
    · have here := absent _ first
      exact phraseSize?_previous (by simpa [Step.phraseSize?, Step.ahead, top] using here)
  rw [Step.phraseSize?]
  split
  · rename_i top
    rw [Option.eq_none_iff_forall_ne_some]
    intro size found
    simp only [Step.extend_ahead, Step.extend_previous] at found
    have inside := phraseSize?_append bars found
    rw [alone top] at inside
    cases inside
  · rfl

theorem of_unstarted (unstarted : Unstarted phrase text) : Quiet phrase text right := by
  obtain ⟨first, head, differs⟩ := unstarted
  intro previous step member
  obtain ⟨c, present, begins⟩ := head_of_mem_scan member
  have absent : wordsSize? phrase (step.ahead ++ right) = none :=
    wordsSize?_head head (by simp [begins]) (differs c present)
  simp [Step.phraseSize?, phraseSize?, absent]

theorem append (apart : Apart left right) (ends : State.start.afterText none left = .start)
    (first : Quiet phrase left (right ++ more)) (second : Quiet phrase right more) :
    Quiet phrase (left ++ right) more := by
  intro previous step member
  rw [scan_append apart, ends] at member
  rcases List.mem_append.mp member with before | behind
  · obtain ⟨source, present, rfl⟩ := List.mem_map.mp before
    have here := first previous source present
    simpa [Step.extend] using here
  · exact second _ step behind

/-- A phrase is not found in a quiet text. -/
theorem findPhrase_eq_none (quiet : Quiet phrase text []) :
    findPhrase phrase previous text = none := by
  unfold findPhrase
  split
  · rfl
  · rw [← List.append_nil text, findStep, findFrom_append (.of_head (by simp)) (quiet previous)]
    rfl

/-- A phrase is looked for behind a quiet text. -/
theorem findPhrase_append (apart : Apart left right) (ends : State.start.afterText none left = .start)
    (quiet : Quiet phrase left right) :
    findPhrase phrase previous (left ++ right) =
      (findPhrase phrase (lastChar previous left) right).map (Found.precede left) := by
  unfold findPhrase
  split
  · rfl
  · exact findStep_append apart (quiet previous) ends

end Quiet

theorem findPhrase_space (words : List Text) (text : Text) :
    findPhrase words (some ' ') text = findPhrase words none text := by
  have same (rest : Text) : phraseSize? words (some ' ') rest = phraseSize? words none rest := by
    have plain : isNameChar ' ' = false := by decide
    simp [phraseSize?, plain]
  unfold findPhrase findStep
  match text with
  | [] => rfl
  | [c] => simp [findFrom, Step.cut?, Step.phraseSize?, Step.ahead, same]
  | c :: d :: rest => simp [findFrom, Step.cut?, Step.phraseSize?, Step.ahead, same]

theorem findPhrase_blank {phrase : List Text} {previous : Option Char} {text : Text} {size : Nat}
    {c : Char} (begins : text.head? = some c) (plain : c ≠ '\'')
    (found : phraseSize? phrase (some ' ') text = some size)
    (unstarted : Unstarted phrase [' ']) :
    findPhrase phrase previous (' ' :: text) = some ⟨[' '], text.take size, text.drop size⟩ := by
  have some_word : phrase ≠ [] := by
    rintro rfl
    obtain ⟨_, head, _⟩ := unstarted
    simp [phraseHead?] at head
  have apart : Apart [' '] text := .of_last (by simp)
  have quiet : Quiet phrase [' '] text := .of_unstarted unstarted
  have here := findPhrase_here begins plain found some_word
  exact (quiet.findPhrase_append apart rfl).trans (congrArg _ here)

end SeedCoverage.Sql

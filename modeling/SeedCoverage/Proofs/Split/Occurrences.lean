import Mathlib.Data.List.Basic
import SeedCoverage.Proofs.Bytes.Split

/-! Where a union is cut. Every search starts afresh behind the phrase before it, and yet the phrases are
those that one reading of the whole text comes to at the top level: a phrase leaves nothing open, and no
other one begins inside it. -/
namespace SeedCoverage.Sql

open Text

/-- UNION and ALL in any letter case, with one or more ASCII blanks between them. -/
def IsUnionAll (phrase : Text) : Prop :=
  ∃ first blanks second, phrase = first ++ (blanks ++ second) ∧ same first "union" = true ∧
    blanks ≠ [] ∧ (∀ c ∈ blanks, isAsciiBlank c = true) ∧ same second "all" = true

/-- At `place` a reading of the whole text is at the top level, and there stands UNION ALL by itself. -/
structure UnionAt (text : Text) (place : Found) : Prop where
  whole : place.before ++ (place.found ++ place.after) = text
  phrase : IsUnionAll place.found
  top : ∃ step ∈ steps text, step.before text = place.before ∧ step.state.atTop = true
  begins : place.before.getLast?.any isNameChar = false
  ends : place.after.head?.any isNameChar = false

/-- All places with UNION ALL that a reading comes to, where `passed` stands before the text. -/
def unionPlacesFrom (passed text : Text) : List Found :=
  (scan none .start passed.getLast? text).filterMap fun step =>
    step.cut? (Step.phraseSize? unionAll) ((step.before text).reverse ++ passed.reverse)

/-- All places with UNION ALL in one reading of the text. -/
def unionPlaces (text : Text) : List Found := unionPlacesFrom [] text

/-- The places at which a union is cut, where `passed` stands before the text: each is searched for
afresh behind the one before it. -/
def unionCuts (passed text : Text) : List Found :=
  match found : findPhrase unionAll passed.getLast? text with
  | none => []
  | some place =>
    have : place.after.length < text.length := findPhrase_after_length found (by decide)
    place.precede passed :: unionCuts (passed ++ (place.before ++ place.found)) place.after
termination_by text.length

/-- The texts from `start` on around places of a text. -/
def piecesAround (text : Text) (start : Nat) : List Found → List Text
  | [] => [text.drop start]
  | place :: rest =>
    place.before.drop start :: piecesAround text (place.before ++ place.found).length rest

/-- Pieces with a phrase behind each but the last. -/
def interleaved : List Text → List Text → Text
  | piece :: pieces, phrase :: phrases => piece ++ (phrase ++ interleaved pieces phrases)
  | pieces, _ => pieces.flatten

variable {passed text phrase more : Text} {place : Found} {size : Nat}

section Phrase

theorem length_of_same {left right : Text} (equal : same left right = true) :
    left.length = right.length := by
  have sizes := congrArg List.length (beq_iff_eq.mp equal)
  rwa [length_lower, length_lower] at sizes

theorem startsWith_iff {word : Text} :
    startsWith word text = true ↔ ∃ part rest, text = part ++ rest ∧ same part word = true := by
  constructor
  · intro starts
    exact ⟨text.take word.length, text.drop word.length, (List.take_append_drop ..).symm, starts⟩
  · rintro ⟨part, rest, rfl, equal⟩
    rw [startsWith, ← length_of_same equal, List.take_left]
    exact equal

theorem wordsSize?_unionAll :
    wordsSize? unionAll text = some size ↔
      ∃ phrase after, text = phrase ++ after ∧ IsUnionAll phrase ∧ phrase.length = size := by
  unfold unionAll
  rw [wordsSize?_cons_cons]
  constructor
  · rintro ⟨starts, some_blank, more, goes, rfl⟩
    obtain ⟨first, rest, rfl, union⟩ := startsWith_iff.mp starts
    rw [← length_of_same union, List.drop_left] at some_blank goes ⊢
    rw [wordsSize?] at goes
    split at goes
    · rename_i later
      obtain ⟨second, after, parts, all⟩ := startsWith_iff.mp later
      obtain rfl := Option.some.inj goes
      refine ⟨first ++ (rest.takeWhile isAsciiBlank ++ second), after, ?_,
        ⟨first, _, second, rfl, union, some_blank, ?_, all⟩, ?_⟩
      · rw [List.append_assoc, List.append_assoc, ← parts, List.takeWhile_append_dropWhile]
      · exact fun c member => List.all_eq_true.mp List.all_takeWhile c member
      · rw [List.length_append, List.length_append, length_of_same all, Nat.add_assoc]
    · cases goes
  · rintro ⟨phrase, after, rfl, ⟨first, blanks, second, rfl, union, some_blank, each, all⟩, rfl⟩
    obtain ⟨c, letters, rfl⟩ : ∃ c letters, second = c :: letters :=
      List.exists_cons_of_length_eq_add_one (length_of_same all)
    have last : startsWith "all" (c :: letters ++ after) = true := startsWith_iff.mpr ⟨_, after, rfl, all⟩
    have letter : c.toLower = 'a' := startsWith_cons last rfl
    have filled : isAsciiBlank c = false := by
      rw [← isAsciiBlank_caseBlind c, letter]
      rfl
    have behind : ((first ++ (blanks ++ c :: letters)) ++ after).drop first.length =
        blanks ++ c :: (letters ++ after) := by
      simp
    have gap : (blanks ++ c :: (letters ++ after)).takeWhile isAsciiBlank = blanks := by
      rw [List.takeWhile_append_of_pos each, List.takeWhile_cons_of_neg (by simp [filled]),
        List.append_nil]
    have rest : (blanks ++ c :: (letters ++ after)).dropWhile isAsciiBlank = c :: letters ++ after := by
      rw [List.dropWhile_append_of_pos each, List.dropWhile_cons_of_neg (by simp [filled])]
      rfl
    rw [← length_of_same union, behind, gap, rest]
    refine ⟨startsWith_iff.mpr ⟨first, blanks ++ c :: letters ++ after, by simp, union⟩, some_blank,
      (c :: letters).length, ?_, ?_⟩
    · rw [wordsSize?, if_pos last, length_of_same all]
    · rw [List.length_append, List.length_append, Nat.add_assoc]

/-- The phrase stands by itself where no name goes up to it or goes on behind it. -/
theorem phraseSize?_unionAll {previous : Option Char} :
    phraseSize? unionAll previous text = some size ↔
      previous.any isNameChar = false ∧ ∃ phrase after, text = phrase ++ after ∧ IsUnionAll phrase ∧
        phrase.length = size ∧ after.head?.any isNameChar = false := by
  rw [phraseSize?]
  split
  · rename_i named
    simp [named]
  · rename_i free
    rw [Option.filter_eq_some_iff, wordsSize?_unionAll]
    constructor
    · rintro ⟨⟨phrase, after, rfl, union, rfl⟩, ends⟩
      rw [List.drop_left, Bool.not_eq_true'] at ends
      exact ⟨Bool.eq_false_iff.mpr free, phrase, after, rfl, union, rfl, ends⟩
    · rintro ⟨-, phrase, after, rfl, union, rfl, ends⟩
      refine ⟨⟨phrase, after, rfl, union, rfl⟩, ?_⟩
      rw [List.drop_left, ends]
      rfl

/-- A step is cut at the phrase if it is at the top level and the phrase stands there by itself. -/
theorem Step.cut?_unionAll {step : Step} {behind : Text} :
    step.cut? (Step.phraseSize? unionAll) behind = some place ↔
      step.state.atTop = true ∧ place.before = behind.reverse ∧
        step.ahead = place.found ++ place.after ∧ IsUnionAll place.found ∧
          step.previous.any isNameChar = false ∧ place.after.head?.any isNameChar = false := by
  rw [Step.cut?, Step.phraseSize?, Option.map_eq_some_iff]
  constructor
  · rintro ⟨size, accepted, rfl⟩
    split at accepted
    · rename_i top
      obtain ⟨free, phrase, after, ahead, union, rfl, ends⟩ := phraseSize?_unionAll.mp accepted
      rw [ahead, List.take_left, List.drop_left]
      exact ⟨top, rfl, rfl, union, free, ends⟩
    · cases accepted
  · rintro ⟨top, front, ahead, union, free, ends⟩
    refine ⟨place.found.length, ?_, ?_⟩
    · rw [if_pos top]
      exact phraseSize?_unionAll.mpr ⟨free, _, _, ahead, union, rfl, ends⟩
    · rw [ahead, List.take_left, List.drop_left, ← front]

theorem isMark_caseBlind : CaseBlind isMark := by
  intro c
  simp (disch := decide) only [isMark, toLower_beq]

private theorem lower_of_same {part word : Text} (equal : same part word = true) {p : Char → Prop}
    (letters : ∀ c ∈ lower word, p c) : ∀ c ∈ part, p c.toLower := by
  intro c member
  refine letters _ ?_
  rw [← beq_iff_eq.mp equal]
  exact List.mem_map_of_mem member

private theorem of_isAsciiBlank {p : Char → Prop} {c : Char} (blank : isAsciiBlank c = true)
    (each : ∀ d ∈ [' ', '\t', '\n', '\x0c', '\r'], p d) : p c := by
  simp only [isAsciiBlank, Bool.or_eq_true, beq_iff_eq] at blank
  refine each c ?_
  rcases blank with (((rfl | rfl) | rfl) | rfl) | rfl <;> decide

/-- Nothing that the phrase holds opens or closes anything. -/
theorem IsUnionAll.unmarked (union : IsUnionAll phrase) : ∀ c ∈ phrase, isMark c = false := by
  obtain ⟨first, blanks, second, rfl, union, -, each, all⟩ := union
  have letters {part word : Text} (equal : same part word = true)
      (plain : ∀ c ∈ lower word, isMark c = false) : ∀ c ∈ part, isMark c = false :=
    fun c member => isMark_caseBlind c ▸ lower_of_same equal plain c member
  intro c member
  rcases List.mem_append.mp member with front | back
  · exact letters union (by decide) c front
  · rcases List.mem_append.mp back with gap | last
    · exact of_isAsciiBlank (p := (isMark · = false)) (each c gap) (by decide)
    · exact letters all (by decide) c last

/-- The phrase begins with a letter that it does not hold again. -/
theorem IsUnionAll.exists_cons (union : IsUnionAll phrase) :
    ∃ c rest, phrase = c :: rest ∧ ∀ d ∈ rest, d.toLower ≠ 'u' := by
  obtain ⟨first, blanks, second, rfl, union, -, each, all⟩ := union
  obtain ⟨c, letters, rfl⟩ : ∃ c letters, first = c :: letters :=
    List.exists_cons_of_length_eq_add_one (length_of_same union)
  have nion : same letters "nion" = true :=
    beq_iff_eq.mpr (List.cons.inj (beq_iff_eq.mp union)).2
  refine ⟨c, letters ++ (blanks ++ second), rfl, fun d member => ?_⟩
  rcases List.mem_append.mp member with front | back
  · exact lower_of_same nion (p := (· ≠ 'u')) (by decide) d front
  · rcases List.mem_append.mp back with gap | last
    · exact of_isAsciiBlank (p := fun d => d.toLower ≠ 'u') (each d gap) (by decide)
    · exact lower_of_same all (p := (· ≠ 'u')) (by decide) d last

theorem IsUnionAll.getLast?_append (union : IsUnionAll phrase) (front : Text) :
    (front ++ phrase).getLast? = phrase.getLast? := by
  obtain ⟨c, rest, rfl, -⟩ := union.exists_cons
  exact List.getLast?_append_cons ..

/-- Read from the top level, a text without marks leaves nothing open. -/
theorem afterText_of_unmarked (unmarked : ∀ c ∈ text, isMark c = false) :
    State.start.afterText none text = .start := by
  have reads : Reads (fun _ _ => True) .start text .start :=
    .chars rfl fun c member => ⟨unmarked c member, trivial⟩
  exact reads.ends

theorem apart_of_unmarked (unmarked : ∀ c ∈ text, isMark c = false) (right : Text) :
    Apart text right :=
  .of_last fun quote => Bool.noConfusion (unmarked _ (List.mem_of_getLast? quote))

/-- The phrase does not begin with the second half of a pair of quotes. -/
theorem IsUnionAll.apart (union : IsUnionAll phrase) (text more : Text) : Apart text (phrase ++ more) := by
  obtain ⟨c, rest, rfl, -⟩ := union.exists_cons
  have unmarked := union.unmarked c List.mem_cons_self
  exact .of_head fun quote => ne_quote_of_unmarked unmarked (Option.some.inj quote)

end Phrase

section OneReading

/-- Behind a text that leaves nothing open, the places are those that are read from there on. -/
theorem unionPlacesFrom_append {left right : Text} (apart : Apart left right)
    (ends : State.start.afterText none left = .start) :
    unionPlacesFrom passed (left ++ right) =
      ((scan none .start passed.getLast? left).map (Step.extend right)).filterMap
          (fun step => step.cut? (Step.phraseSize? unionAll)
            ((step.before (left ++ right)).reverse ++ passed.reverse)) ++
        unionPlacesFrom (passed ++ left) right := by
  have last : lastChar passed.getLast? left = (passed ++ left).getLast? := by
    rw [lastChar, List.getLast?_append]
  rw [unionPlacesFrom, scan_append apart, ends, List.filterMap_append, last, unionPlacesFrom]
  refine congrArg (_ ++ ·) (List.filterMap_congr fun step member => ?_)
  rw [Step.before_append (ahead_of_mem_scan member)]
  simp

theorem unionPlacesFrom_skip {left right : Text} (apart : Apart left right)
    (ends : State.start.afterText none left = .start)
    (skipped : ∀ step ∈ scan none .start passed.getLast? left,
      (step.extend right).phraseSize? unionAll = none) :
    unionPlacesFrom passed (left ++ right) = unionPlacesFrom (passed ++ left) right := by
  rw [unionPlacesFrom_append apart ends, List.filterMap_eq_nil_iff.mpr, List.nil_append]
  intro step member
  obtain ⟨source, present, rfl⟩ := List.mem_map.mp member
  rw [Step.cut?, skipped source present]
  rfl

theorem unionPlacesFrom_here {after : Text} (union : IsUnionAll phrase)
    (free : passed.getLast?.any isNameChar = false) (ends : after.head?.any isNameChar = false) :
    unionPlacesFrom passed (phrase ++ after) =
      ⟨passed, phrase, after⟩ :: unionPlacesFrom (passed ++ phrase) after := by
  obtain ⟨c, rest, rfl, unstarted⟩ := union.exists_cons
  obtain ⟨one, others⟩ := List.forall_mem_cons.mp union.unmarked
  have first : ∀ d ∈ [c], isMark d = false := by simpa using one
  have quiet : Quiet unionAll rest after := .of_unstarted ⟨'u', rfl, unstarted⟩
  have step : (scan none .start passed.getLast? [c]).map (Step.extend (rest ++ after)) =
      [⟨.start, passed.getLast?, .char c, rest ++ after⟩] := by
    rw [scan_char (ne_quote_of_unmarked one)]
    rfl
  have accepted : Step.cut? (Step.phraseSize? unionAll)
      ((Step.before ([c] ++ (rest ++ after)) ⟨.start, passed.getLast?, .char c, rest ++ after⟩).reverse ++
        passed.reverse) ⟨.start, passed.getLast?, .char c, rest ++ after⟩ =
      some ⟨passed, c :: rest, after⟩ := by
    refine Step.cut?_unionAll.mpr ⟨rfl, ?_, rfl, union, free, ends⟩
    simp [Step.before, Step.ahead, Lexeme.text]
  rw [List.cons_append, ← List.singleton_append,
    unionPlacesFrom_append (apart_of_unmarked first _) (afterText_of_unmarked first),
    unionPlacesFrom_skip (apart_of_unmarked others _) (afterText_of_unmarked others) (quiet _), step,
    List.filterMap_cons, accepted, List.append_assoc]
  rfl

/-- More text behind a reading is not before its steps. -/
theorem Step.before_extend (step : Step) (text more : Text) :
    (step.extend more).before (text ++ more) = step.before text := by
  rw [Step.before, Step.extend_ahead, List.length_append, List.length_append, Nat.add_sub_add_right]
  exact List.take_append_of_le_length (Nat.sub_le _ _)

theorem skipped_before {accept : Step → Option Nat} {previous : Option Char}
    (found : findStep accept previous text = some place)
    (apart : Apart place.before (place.found ++ place.after)) :
    ∀ step ∈ scan none .start previous place.before,
      accept (step.extend (place.found ++ place.after)) = none := by
  have whole := (findStep_whole found).symm
  rw [findStep, findFrom_eq, whole, scan_append apart, List.findSome?_append] at found
  cases sooner : ((scan none .start previous place.before).map
      (Step.extend (place.found ++ place.after))).findSome? fun step => step.cut? accept
        ((step.before (place.before ++ (place.found ++ place.after))).reverse ++ []) with
  | none =>
    intro step member
    have skipped := List.findSome?_eq_none_iff.mp sooner _ (List.mem_map_of_mem member)
    exact Option.map_eq_none_iff.mp skipped
  | some other =>
    rw [sooner, Option.some_or, Option.some.injEq] at found
    obtain ⟨step, member, taken⟩ := List.exists_of_findSome?_eq_some sooner
    obtain ⟨source, present, rfl⟩ := List.mem_map.mp member
    obtain ⟨c, -, begins⟩ := head_of_mem_scan present
    have parts := congrArg List.length (before_append_ahead present)
    rw [Step.before_extend, found] at taken
    obtain ⟨size, -, same⟩ := Option.map_eq_some_iff.mp taken
    have front : place.before = source.before place.before := by
      conv => lhs; rw [← same]
      simp
    rw [← front, List.length_append] at parts
    have empty : source.ahead = [] := List.eq_nil_of_length_eq_zero (by omega)
    rw [empty] at begins
    cases begins

/-- What a search finds is the first place behind a text that leaves nothing open. -/
theorem findPhrase_unionAll_eq_some {previous : Option Char}
    (found : findPhrase unionAll previous text = some place) :
    text = place.before ++ (place.found ++ place.after) ∧ IsUnionAll place.found ∧
      State.start.afterText none place.before = .start ∧
        (lastChar previous place.before).any isNameChar = false ∧
          place.after.head?.any isNameChar = false ∧
            ∀ step ∈ scan none .start previous place.before,
              (step.extend (place.found ++ place.after)).phraseSize? unionAll = none := by
  have sought : findStep (Step.phraseSize? unionAll) previous text = some place := found
  obtain ⟨step, member, taken⟩ :=
    List.exists_of_findSome?_eq_some ((findFrom_eq ..).symm.trans sought)
  obtain ⟨top, front, ahead, union, free, ends⟩ := Step.cut?_unionAll.mp taken
  rw [List.append_nil, List.reverse_reverse] at front
  refine ⟨(findStep_whole sought).symm, union, ?_, ?_, ends, skipped_before sought (union.apart _ _)⟩
  · rw [front, afterText_before member]
    exact (State.atTop_iff _).mp top
  · rw [front, lastChar_before member]
    exact free

/-- Searching afresh behind every place finds the places of one reading. -/
theorem unionCuts_eq (passed text : Text) : unionCuts passed text = unionPlacesFrom passed text := by
  fun_induction unionCuts passed text with
  | case1 passed text absent =>
    refine (List.filterMap_eq_nil_iff.mpr fun step member => ?_).symm
    rw [Step.cut?, absent_of_findPhrase (by decide) absent step member]
    rfl
  | case2 passed text place found shorter ih =>
    obtain ⟨whole, union, closed, free, ends, skipped⟩ := findPhrase_unionAll_eq_some found
    have last : (passed ++ place.before).getLast?.any isNameChar = false := by
      rw [List.getLast?_append]
      exact free
    calc place.precede passed :: unionCuts (passed ++ (place.before ++ place.found)) place.after
      _ = ⟨passed ++ place.before, place.found, place.after⟩ ::
            unionPlacesFrom (passed ++ place.before ++ place.found) place.after := by
        rw [ih, List.append_assoc]
        rfl
      _ = unionPlacesFrom (passed ++ place.before) (place.found ++ place.after) :=
        (unionPlacesFrom_here union last ends).symm
      _ = unionPlacesFrom passed text := by
        rw [← unionPlacesFrom_skip (union.apart _ _) closed skipped, ← whole]

end OneReading

section Pieces

/-- A place in one reading is a place where the phrase stands by itself at the top level. -/
theorem mem_unionPlaces : place ∈ unionPlaces text ↔ UnionAt text place := by
  rw [unionPlaces, unionPlacesFrom, List.mem_filterMap]
  constructor
  · rintro ⟨step, member, taken⟩
    obtain ⟨top, front, ahead, union, free, ends⟩ := Step.cut?_unionAll.mp taken
    rw [List.reverse_nil, List.append_nil, List.reverse_reverse] at front
    refine ⟨?_, union, ⟨step, member, front.symm, top⟩, ?_, ends⟩
    · rw [← ahead, front, before_append_ahead member]
    · have last : lastChar none (step.before text) = step.previous := lastChar_before member
      rwa [front, ← @Option.or_none _ (step.before text).getLast?, ← lastChar, last]
  · rintro ⟨whole, union, ⟨step, member, front, top⟩, free, ends⟩
    refine ⟨step, member, Step.cut?_unionAll.mpr ⟨top, ?_, ?_, union, ?_, ends⟩⟩
    · rw [List.reverse_nil, List.append_nil, List.reverse_reverse, front]
    · refine (List.append_right_inj (step.before text)).mp ?_
      rw [before_append_ahead member, front, whole]
    · rwa [← lastChar_before member, front, lastChar, Option.or_none]

theorem passed_le_of_mem_unionCuts (member : place ∈ unionCuts passed text) :
    passed.length ≤ place.before.length := by
  fun_induction unionCuts passed text with
  | case1 => cases member
  | case2 passed text first found shorter ih =>
    rcases List.mem_cons.mp member with rfl | later
    · simp [Found.precede]
    · refine le_trans ?_ (ih later)
      simp

theorem unionCuts_pairwise (passed text : Text) :
    (unionCuts passed text).Pairwise fun left right =>
      (left.before ++ left.found).length ≤ right.before.length := by
  fun_induction unionCuts passed text with
  | case1 => exact .nil
  | case2 passed text place found shorter ih =>
    refine .cons (fun later member => ?_) ih
    have behind := passed_le_of_mem_unionCuts member
    rwa [← List.append_assoc] at behind

theorem unionPieces_eq (passed text : Text) :
    unionPieces passed.getLast? text =
      piecesAround (passed ++ text) passed.length (unionCuts passed text) := by
  fun_induction unionCuts passed text with
  | case1 passed text absent =>
    rw [unionPieces_absent absent, piecesAround, List.drop_left]
  | case2 passed text place found shorter ih =>
    obtain ⟨whole, union, -⟩ := findPhrase_unionAll_eq_some found
    rw [← List.append_assoc, union.getLast?_append, List.append_assoc] at ih
    rw [unionPieces_found found, ih, piecesAround, whole]
    simp [Found.precede]

theorem interleaved_unionPieces (passed text : Text) :
    interleaved (unionPieces passed.getLast? text) ((unionCuts passed text).map Found.found) = text := by
  fun_induction unionCuts passed text with
  | case1 passed text absent =>
    rw [unionPieces_absent absent]
    simp [interleaved]
  | case2 passed text place found shorter ih =>
    obtain ⟨whole, union, -⟩ := findPhrase_unionAll_eq_some found
    rw [← List.append_assoc, union.getLast?_append, List.append_assoc] at ih
    rw [unionPieces_found found, List.map_cons, interleaved, ih]
    exact whole.symm

theorem isEmpty_trim (text : Text) : (trim text).isEmpty = blank text := by
  rw [Bool.eq_iff_iff, List.isEmpty_iff, blank, List.all_eq_true]
  constructor
  · intro empty c member
    obtain ⟨lead, tail, whole, front, back⟩ := exists_trim text
    rw [whole, empty] at member
    exact (List.mem_append.mp member).elim (front c) (back c)
  · intro each
    rw [trim, trimStart, List.dropWhile_eq_nil_iff.mpr each]
    rfl

end Pieces

/-- A union is cut at the phrases that one reading of the text comes to, though every search for the next
one starts afresh: at every UNION ALL that stands by itself at the top level, in order and without
overlap. The same pieces are cut by offset. Put together again with the phrases they are the text, and
its clauses are those that are not blank, trimmed. -/
theorem union_one_reading (text : Text) :
    unionCuts [] text = unionPlaces text ∧
    (∀ place, place ∈ unionPlaces text ↔ UnionAt text place) ∧
    (unionPlaces text).Pairwise (fun left right =>
      (left.before ++ left.found).length ≤ right.before.length) ∧
    unionPieces none text = piecesAround text 0 (unionPlaces text) ∧
    Bytes.unionFrom text 0 = .ok (unionPieces none text) ∧
    interleaved (unionPieces none text) ((unionPlaces text).map Found.found) = text ∧
    unionClauses text = ((unionPieces none text).filter fun piece => !blank piece).map trim := by
  have cuts : unionCuts [] text = unionPlaces text := unionCuts_eq [] text
  refine ⟨cuts, fun place => mem_unionPlaces, ?_, ?_, Bytes.unionFrom_eq [] text, ?_, ?_⟩
  · exact cuts ▸ unionCuts_pairwise [] text
  · exact cuts ▸ unionPieces_eq [] text
  · exact cuts ▸ interleaved_unionPieces [] text
  · rw [unionClauses, List.filter_map]
    congr
    funext piece
    exact congrArg (!·) (isEmpty_trim piece)

-- No phrase in quotes or parentheses is a place, nor is one that a name runs into.
example :
    (unionPlaces "1 Union\tALL (2 union all) 'union all' reunion all $union all").map Found.found =
      ["Union\tALL".toList] := by
  decide +kernel

end SeedCoverage.Sql

import Mathlib.Order.Nat
import SeedCoverage.Proofs.Bytes.Search

/-! The parenthesis that closes the one at the start of a text. As long as none has closed it, what is
open is what was opened and not closed, so that the first one to leave nothing open is the first up to
which as many are closed as opened. -/
namespace SeedCoverage.Sql

open Text

/-- How often `c` is read outside quotes. -/
def countBare (c : Char) (run : List Step) : Nat :=
  run.countP fun step => step.isChar c && !step.state.inQuotes

/-- At `offset` a fresh reading is outside quotes, on a closing parenthesis, and the text from its start
up to and with that one holds as many opening as closing parentheses outside quotes. -/
structure Balances (text : Text) (offset : Nat) : Prop where
  closes : text[offset]? = some ')'
  unquoted : ∃ step ∈ steps text, (step.before text).length = offset ∧ step.state.inQuotes = false
  even : countBare '(' (steps (text.take (offset + 1))) = countBare ')' (steps (text.take (offset + 1)))

variable {state : State} {previous : Option Char} {text front back : Text} {offset : Nat}

theorem Balances.length_take (balances : Balances text offset) : (text.take offset).length = offset :=
  List.length_take_of_le (Nat.le_of_lt (List.getElem?_eq_some_iff.mp balances.closes).1)

theorem countBare_append (c : Char) (left right : List Step) :
    countBare c (left ++ right) = countBare c left + countBare c right :=
  List.countP_append

theorem countBare_cons (c : Char) (step : Step) (run : List Step) :
    countBare c (step :: run) = countBare c [step] + countBare c run :=
  countBare_append c [step] run

theorem countBare_extend (c : Char) (more : Text) (run : List Step) :
    countBare c (run.map (Step.extend more)) = countBare c run := by
  rw [countBare, List.countP_map]
  rfl

private theorem next_parens {step : Step} (inside : 0 < step.state.parens) :
    step.next.parens + countBare ')' [step] = step.state.parens + countBare '(' [step] ∧
      (step.closesAll = false → 0 < step.next.parens) := by
  obtain ⟨⟨quote, parens, brackets⟩, previous, lexeme, rest⟩ := step
  cases lexeme with
  | quotePair => exact ⟨rfl, fun _ => inside⟩
  | cut c => exact ⟨rfl, fun _ => inside⟩
  | char c =>
    cases quote with
    | single =>
      refine ⟨?_, fun _ => inside⟩
      simp [countBare, Step.next, State.after, State.read, State.inQuotes]
    | double =>
      refine ⟨?_, fun _ => inside⟩
      simp [countBare, Step.next, State.after, State.read, State.inQuotes]
    | code =>
      simp only [countBare, Step.next, Step.closesAll, Step.isChar, State.after, State.read,
        State.inQuotes, State.outsideParens] at inside ⊢
      grind

private theorem unclosed_cons (step : Step) {run : List Step} {final : State}
    (inside : 0 < step.state.parens) (unclosed : ∀ later ∈ step :: run, later.closesAll = false)
    (rest : 0 < step.next.parens → final.parens + countBare ')' run =
      step.next.parens + countBare '(' run ∧ 0 < final.parens) :
    final.parens + countBare ')' (step :: run) = step.state.parens + countBare '(' (step :: run) ∧
      0 < final.parens := by
  obtain ⟨even, stays⟩ := next_parens inside
  obtain ⟨later, some_open⟩ := rest (stays (unclosed step List.mem_cons_self))
  rw [countBare_cons, countBare_cons '(']
  exact ⟨by omega, some_open⟩

/-- Through steps that do not close all, something stays open: as much as is opened and not closed. -/
theorem parens_of_unclosed (inside : 0 < state.parens)
    (unclosed : ∀ step ∈ scan none state previous text, step.closesAll = false) :
    (state.afterText none text).parens + countBare ')' (scan none state previous text) =
        state.parens + countBare '(' (scan none state previous text) ∧
      0 < (state.afterText none text).parens := by
  fun_induction scan none state previous text with
  | case1 => exact ⟨rfl, inside⟩
  | case2 state previous c =>
    exact unclosed_cons ⟨state, previous, Lexeme.at none state c none, []⟩ inside unclosed
      fun some_open => ⟨rfl, some_open⟩
  | case3 state previous c d rest pair ih =>
    obtain ⟨rfl, rfl⟩ := Lexeme.eq_quotes_of_pair pair
    rw [afterText_pair pair]
    exact unclosed_cons ⟨state, previous, .quotePair, rest⟩ inside unclosed
      fun some_open => ih some_open fun step member => unclosed step (List.mem_cons_of_mem _ member)
  | case4 state previous c d rest single ih =>
    rw [@afterText_cons none state c (d :: rest) single]
    exact unclosed_cons ⟨state, previous, Lexeme.at none state c (some d), d :: rest⟩ inside unclosed
      fun some_open => ih some_open fun step member => unclosed step (List.mem_cons_of_mem _ member)

theorem parens_of_unclosed_start (opens : front.head? = some '(')
    (unclosed : ∀ step ∈ steps front, step.closesAll = false) :
    (State.start.afterText none front).parens + countBare ')' (steps front) =
        countBare '(' (steps front) ∧
      0 < (State.start.afterText none front).parens := by
  obtain ⟨rest, rfl⟩ := List.head?_eq_some_iff.mp opens
  have plain : '(' ≠ '\'' := by decide
  have opened : State.start.read '(' = .nested := rfl
  rw [steps, scan_char plain, opened] at unclosed ⊢
  obtain ⟨even, some_open⟩ := @parens_of_unclosed .nested (some '(') rest Nat.one_pos
    fun step member => unclosed step (List.mem_cons_of_mem _ member)
  rw [afterText_single (Lexeme.at_char plain), opened]
  refine ⟨?_, some_open⟩
  have none_closed : countBare ')' [⟨.start, none, .char '(', rest⟩] = 0 := rfl
  have one_opened : countBare '(' [⟨.start, none, .char '(', rest⟩] = State.nested.parens := rfl
  rw [countBare_cons, countBare_cons '(', none_closed, one_opened, Nat.zero_add]
  exact even

/-- What is read up to a closing parenthesis and with it. -/
theorem steps_closing (front back : Text) :
    steps (front ++ ')' :: back) =
      (steps front).map (Step.extend (')' :: back)) ++
        ⟨State.start.afterText none front, lastChar none front, .char ')', back⟩ ::
          scan none ((State.start.afterText none front).read ')') (some ')') back := by
  have seam : Apart front (')' :: back) := .of_head (by simp)
  rw [steps, scan_append seam, scan_char (by decide)]
  rfl

/-- Whether a reading is outside quotes on a closing parenthesis is what the text before it leaves
open. -/
private theorem unquoted_iff (front back : Text) :
    (∃ step ∈ steps (front ++ ')' :: back),
        (step.before (front ++ ')' :: back)).length = front.length ∧ step.state.inQuotes = false) ↔
      (State.start.afterText none front).inQuotes = false := by
  constructor
  · rintro ⟨step, member, size, unquoted⟩
    have same : step.before (front ++ ')' :: back) = front :=
      (List.append_inj (before_append_ahead member) size).1
    rw [← same, afterText_before member]
    exact unquoted
  · intro unquoted
    refine ⟨⟨State.start.afterText none front, lastChar none front, .char ')', back⟩, ?_, ?_, unquoted⟩
    · rw [steps_closing]
      exact List.mem_append_right _ List.mem_cons_self
    · simp [Step.before, Step.ahead, Lexeme.text]

/-- A closing parenthesis leaves none open where it is read outside quotes and one is open. -/
private theorem outsideParens_read (inside : 0 < state.parens) :
    (state.read ')').outsideParens = true ↔ state.inQuotes = false ∧ state.parens = 1 := by
  rcases state with ⟨quote, parens, brackets⟩
  cases quote with
  | code =>
    simp only [State.read, State.outsideParens, State.inQuotes] at inside ⊢
    grind
  | single => simp [State.read, Quote.read, State.outsideParens, State.inQuotes]
  | double => simp [State.read, Quote.read, State.outsideParens, State.inQuotes]

/-- Where nothing has closed the first parenthesis yet, one closes it just where it balances the text. -/
private theorem balances_iff_closes (opens : front.head? = some '(')
    (unclosed : ∀ step ∈ steps front, step.closesAll = false) (back : Text) :
    Balances (front ++ ')' :: back) front.length ↔
      ((State.start.afterText none front).read ')').outsideParens = true := by
  obtain ⟨sum, some_open⟩ := parens_of_unclosed_start opens unclosed
  have upTo : (front ++ ')' :: back).take (front.length + 1) = front ++ [')'] :=
    List.take_length_add_append 1
  have opened : countBare '(' (steps (front ++ [')'])) = countBare '(' (steps front) := by
    rw [steps_closing, countBare_append, countBare_extend]
    rfl
  have closed (bare : (State.start.afterText none front).inQuotes = false) :
      countBare ')' (steps (front ++ [')'])) = countBare ')' (steps front) + 1 := by
    rw [steps_closing, countBare_append, countBare_extend]
    simp [countBare, scan, Step.isChar, bare]
  rw [outsideParens_read some_open]
  constructor
  · rintro ⟨-, unquoted, even⟩
    have bare := (unquoted_iff front back).mp unquoted
    rw [upTo, opened, closed bare] at even
    exact ⟨bare, by omega⟩
  · rintro ⟨bare, one⟩
    refine ⟨by simp, (unquoted_iff front back).mpr bare, ?_⟩
    rw [upTo, opened, closed bare]
    omega

private theorem exists_parts (closes : text[offset]? = some ')') :
    ∃ front back, text = front ++ ')' :: back ∧ front.length = offset := by
  obtain ⟨inside, here⟩ := List.getElem?_eq_some_iff.mp closes
  refine ⟨text.take offset, text.drop (offset + 1), ?_, List.length_take_of_le (Nat.le_of_lt inside)⟩
  rw [← here, ← List.drop_eq_getElem_cons inside, List.take_append_drop]

private theorem head?_front (opens : (front ++ ')' :: back).head? = some '(') :
    front.head? = some '(' := by
  cases front with
  | nil => cases opens
  | cons c rest => exact opens

/-- As long as no offset balances the text, no step closes the first parenthesis. -/
private theorem unclosed_of_unbalanced (opens : text.head? = some '(') (offset : Nat)
    (unbalanced : ∀ sooner < offset, ¬Balances text sooner) :
    ∀ step ∈ steps (text.take offset), step.closesAll = false := by
  induction offset using Nat.strongRecOn with
  | _ offset ih =>
    intro step member
    refine Bool.eq_false_iff.mpr fun closes => ?_
    obtain ⟨char, outside⟩ := Bool.and_eq_true_iff.mp closes
    have lexeme : step.lexeme = .char ')' := beq_iff_eq.mp char
    have parts := before_append_ahead member
    rw [Step.ahead, lexeme] at parts
    obtain ⟨front, same⟩ : ∃ front, step.before (text.take offset) = front := ⟨_, rfl⟩
    rw [same] at parts
    have whole : text = front ++ ')' :: (step.rest ++ text.drop offset) := by
      conv => lhs; rw [← List.take_append_drop offset text, ← parts]
      simp [Lexeme.text]
    have sooner : front.length < offset := by
      have size := congrArg List.length parts
      simp only [Lexeme.text, List.length_append, List.length_cons, List.length_take] at size
      omega
    have begins : front.head? = some '(' := head?_front (whole ▸ opens)
    have unclosed := ih front.length sooner fun earlier before =>
      unbalanced earlier (Nat.lt_trans before sooner)
    rw [whole, List.take_left] at unclosed
    refine unbalanced front.length sooner ?_
    rw [whole]
    refine (balances_iff_closes begins unclosed _).mpr ?_
    rw [← same, afterText_before member]
    rwa [Step.next, lexeme] at outside

/-- The least offset that balances a text is that of the parenthesis that is found. -/
private theorem findClosingParen_of_least (opens : text.head? = some '(')
    (least : IsLeast {offset | Balances text offset} offset) :
    findClosingParen text = some ⟨text.take offset, [')'], text.drop (offset + 1)⟩ := by
  have unclosed := unclosed_of_unbalanced opens offset fun sooner before balances =>
    Nat.not_le_of_lt before (least.2 balances)
  obtain ⟨front, back, rfl, rfl⟩ := exists_parts least.1.closes
  rw [List.take_left] at unclosed ⊢
  have closes := (balances_iff_closes (head?_front opens) unclosed back).mp least.1
  have seam : Apart front (')' :: back) := .of_head (by simp)
  have skipped : ∀ step ∈ steps front, (step.extend (')' :: back)).closingSize? = none := by
    intro step member
    rw [Step.closingSize?, Step.extend_closesAll, if_neg (by simp [unclosed step member])]
  have accepted : Step.closingSize?
      ⟨State.start.afterText none front, lastChar none front, .char ')', back⟩ = some 1 := by
    rw [Step.closingSize?, if_pos]
    exact Bool.and_eq_true_iff.mpr ⟨beq_self_eq_true _, closes⟩
  rw [findClosingParen, if_pos opens, findStep, findFrom_append seam skipped,
    findFrom_here (Lexeme.at_char (by decide)) accepted]
  simp

private theorem findClosingParen_of_unbalanced (opens : text.head? = some '(')
    (unbalanced : ∀ offset, ¬Balances text offset) : findClosingParen text = none := by
  have unclosed := unclosed_of_unbalanced opens text.length fun sooner _ => unbalanced sooner
  rw [List.take_length] at unclosed
  rw [findClosingParen, if_pos opens, findStep, findFrom_eq, List.findSome?_eq_none_iff]
  intro step member
  rw [Step.cut?, Step.closingSize?, if_neg (by simp [unclosed step member])]
  rfl

private theorem exists_least (balanced : ∃ offset, Balances text offset) :
    ∃ offset, IsLeast {offset | Balances text offset} offset := by
  classical
  exact ⟨Nat.find balanced, Nat.find_spec balanced, fun _ other => Nat.find_min' balanced other⟩

/-- The parenthesis that is found is the first one up to which a text is balanced. -/
theorem findClosingParen_eq_some {place : Found} :
    findClosingParen text = some place ↔
      text.head? = some '(' ∧ ∃ offset, IsLeast {offset | Balances text offset} offset ∧
        place = ⟨text.take offset, [')'], text.drop (offset + 1)⟩ := by
  constructor
  · intro found
    have opens : text.head? = some '(' := by
      by_contra other
      rw [findClosingParen, if_neg other] at found
      cases found
    have some_balance : ∃ offset, Balances text offset := by
      by_contra none_balances
      rw [findClosingParen_of_unbalanced opens (not_exists.mp none_balances)] at found
      cases found
    obtain ⟨offset, least⟩ := exists_least some_balance
    rw [findClosingParen_of_least opens least] at found
    exact ⟨opens, offset, least, (Option.some.inj found).symm⟩
  · rintro ⟨opens, offset, least, rfl⟩
    exact findClosingParen_of_least opens least

theorem findClosingParen_eq_none :
    findClosingParen text = none ↔ text.head? ≠ some '(' ∨ ∀ offset, ¬Balances text offset := by
  constructor
  · intro absent
    refine or_iff_not_imp_left.mpr fun opens offset balances => ?_
    obtain ⟨first, least⟩ := exists_least ⟨offset, balances⟩
    rw [findClosingParen_of_least (not_not.mp opens) least] at absent
    cases absent
  · rintro (closed | unbalanced)
    · rw [findClosingParen, if_neg closed]
    · by_cases opens : text.head? = some '('
      · exact findClosingParen_of_unbalanced opens unbalanced
      · rw [findClosingParen, if_neg opens]

namespace Bytes

theorem findClosing_drop (text : Text) (first : Nat) :
    findClosing text first = .ok ((findClosingParen ((octets text).drop first)).map fun place =>
      (first + place.before.length, first + place.before.length + 1)) := by
  have agree (bytes : Text) : ∀ step ∈ steps bytes,
      (pure (if step.lexeme == .char ')' && (step.state.after step.lexeme).outsideParens
        then some (first + (step.before bytes).length + 1) else none) : Checked (Option Nat)) =
      .ok (step.closingSize?.map fun size => first + (step.before bytes).length + size) := by
    intro step _
    have same : (step.lexeme == .char ')' && (step.state.after step.lexeme).outsideParens) =
        step.closesAll := rfl
    rw [same, Step.closingSize?]
    split <;> rfl
  rw [findClosing, findClosingParen, ← List.head?_drop]
  split
  · rw [reading, points_eq_map fun _ _ => List.length_append, seek_map (agree _), findStep, findFrom_eq,
      List.map_findSome?]
    refine congrArg (fun choose => Except.ok (List.findSome? choose _)) (funext fun step => ?_)
    simp only [Function.comp_apply, Step.cut?, Option.map_map, List.append_nil, List.reverse_reverse]
    unfold Step.closingSize?
    split <;> rfl
  · rfl

private theorem pos_of_balances (opens : text.head? = some '(') (balances : Balances text offset) :
    0 < offset := by
  refine Nat.pos_of_ne_zero ?_
  rintro rfl
  have closes := balances.closes
  rw [← List.head?_eq_getElem?, opens] at closes
  exact absurd (Option.some.inj closes) (by decide)

private theorem isLeast_behind (opens : text.head? = some '(') {first last : Nat} :
    IsLeast {offset | first < offset ∧ Balances text (offset - first)} last ↔
      ∃ offset, IsLeast {offset | Balances text offset} offset ∧ first + offset = last := by
  constructor
  · rintro ⟨⟨later, balances⟩, least⟩
    refine ⟨last - first, ⟨balances, fun other found => ?_⟩, by omega⟩
    have after : first < first + other := Nat.lt_add_of_pos_right (pos_of_balances opens found)
    have bound : last ≤ first + other :=
      least ⟨after, by rwa [Nat.add_sub_cancel_left]⟩
    omega
  · rintro ⟨offset, ⟨balances, least⟩, rfl⟩
    refine ⟨⟨Nat.lt_add_of_pos_right (pos_of_balances opens balances), ?_⟩, ?_⟩
    · rwa [Nat.add_sub_cancel_left]
    · rintro other ⟨later, found⟩
      have bound : offset ≤ other - first := least found
      omega

theorem findClosing_eq_some {first last next : Nat} :
    findClosing text first = .ok (some (last, next)) ↔
      (octets text)[first]? = some '(' ∧
        IsLeast {offset | first < offset ∧ Balances ((octets text).drop first) (offset - first)} last ∧
          next = last + 1 := by
  rw [findClosing_drop, Except.ok.injEq, Option.map_eq_some_iff, ← List.head?_drop]
  constructor
  · rintro ⟨place, found, ends⟩
    obtain ⟨opens, offset, least, rfl⟩ := findClosingParen_eq_some.mp found
    simp only [least.1.length_take, Prod.mk.injEq] at ends
    exact ⟨opens, (isLeast_behind opens).mpr ⟨offset, least, ends.1⟩, by omega⟩
  · rintro ⟨opens, behind, rfl⟩
    obtain ⟨offset, least, rfl⟩ := (isLeast_behind opens).mp behind
    refine ⟨_, findClosingParen_eq_some.mpr ⟨opens, offset, least, rfl⟩, ?_⟩
    rw [least.1.length_take]

theorem findClosing_eq_none {first : Nat} :
    findClosing text first = .ok none ↔
      (octets text)[first]? ≠ some '(' ∨
        ∀ last, first < last → ¬Balances ((octets text).drop first) (last - first) := by
  rw [findClosing_drop, Except.ok.injEq, Option.map_eq_none_iff, findClosingParen_eq_none,
    ← List.head?_drop]
  refine or_congr_right' fun begins => ?_
  have opens := not_not.mp begins
  constructor
  · intro unbalanced last _
    exact unbalanced (last - first)
  · intro unbalanced offset balances
    refine unbalanced (first + offset) (Nat.lt_add_of_pos_right (pos_of_balances opens balances)) ?_
    rwa [Nat.add_sub_cancel_left]

end Bytes

/-- The parenthesis that closes the one at the start of a text is the first one up to which as many are
closed as opened, outside quotes; there is none where the text begins with something else, or where no
place balances it. By offset the same is found among the bytes. -/
theorem closing_balances (text : Text) :
    (∀ place, findClosingParen text = some place ↔
      text.head? = some '(' ∧ ∃ offset, IsLeast {offset | Balances text offset} offset ∧
        place = ⟨text.take offset, [')'], text.drop (offset + 1)⟩) ∧
    (findClosingParen text = none ↔ text.head? ≠ some '(' ∨ ∀ offset, ¬Balances text offset) ∧
    (∀ first last next, Bytes.findClosing text first = .ok (some (last, next)) ↔
      (octets text)[first]? = some '(' ∧
        IsLeast {offset | first < offset ∧ Balances ((octets text).drop first) (offset - first)} last ∧
          next = last + 1) ∧
    ∀ first, Bytes.findClosing text first = .ok none ↔
      (octets text)[first]? ≠ some '(' ∨
        ∀ last, first < last → ¬Balances ((octets text).drop first) (last - first) := by
  exact ⟨fun _ => findClosingParen_eq_some, findClosingParen_eq_none,
    fun _ _ _ => Bytes.findClosing_eq_some, fun _ => Bytes.findClosing_eq_none⟩

-- Brackets do not count, nor do parentheses in quotes.
example :
    findClosingParen "([ ')' (b]) \")\" ), c)" =
      some ⟨"([ ')' (b]) \")\" ", ")", ", c)"⟩ := by
  decide +kernel

end SeedCoverage.Sql

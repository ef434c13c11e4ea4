import Mathlib.Data.List.TakeWhile
import SeedCoverage.Text.Blank

/-! Texts without blanks at their ends, and what trimming does to the others. -/
namespace SeedCoverage.Text

/-- No blank at either end. -/
def Trimmed (text : Text) : Prop :=
  (∀ c ∈ text.head?, isBlank c = false) ∧ ∀ c ∈ text.getLast?, isBlank c = false

theorem dropEndWhile_eq_self {drop : Char → Bool} {text : Text}
    (kept : ∀ c ∈ text.getLast?, drop c = false) : dropEndWhile drop text = text := by
  rw [List.getLast?_eq_head?_reverse] at kept
  rw [dropEndWhile]
  cases turned : text.reverse with
  | nil => simpa using turned
  | cons c rest =>
    have last : drop c = false := kept c (by simp [turned])
    rw [List.dropWhile_cons_of_neg (by simp [last]), ← turned, List.reverse_reverse]

theorem dropEndWhile_concat {drop : Char → Bool} {text : Text} {c : Char} (dropped : drop c = true) :
    dropEndWhile drop (text ++ [c]) = dropEndWhile drop text := by
  simp [dropEndWhile, dropped]

theorem dropEndWhile_append {drop : Char → Bool} (front : Text) {text : Text}
    (filled : dropEndWhile drop text ≠ []) :
    dropEndWhile drop (front ++ text) = front ++ dropEndWhile drop text := by
  have some_kept : (text.reverse.dropWhile drop).isEmpty = false := by
    simpa [dropEndWhile] using filled
  simp [dropEndWhile, List.dropWhile_append, some_kept]

theorem dropEndWhile_cons {drop : Char → Bool} {c : Char} (kept : drop c = false) (text : Text) :
    dropEndWhile drop (c :: text) = c :: dropEndWhile drop text := by
  rw [dropEndWhile, List.reverse_cons, List.dropWhile_append]
  cases turned : text.reverse.dropWhile drop <;> simp [dropEndWhile, turned, kept]

/-- A character that is kept ends what goes. -/
theorem dropEndWhile_append_cons {drop : Char → Bool} {c : Char} (kept : drop c = false)
    (front text : Text) :
    dropEndWhile drop (front ++ c :: text) = front ++ c :: dropEndWhile drop text := by
  have filled : dropEndWhile drop (c :: text) ≠ [] := by simp [dropEndWhile_cons kept]
  rw [dropEndWhile_append front filled, dropEndWhile_cons kept]

theorem length_dropEndWhile_le (drop : Char → Bool) (text : Text) :
    (dropEndWhile drop text).length ≤ text.length := by
  simpa [dropEndWhile] using (List.dropWhile_sublist (l := text.reverse) drop).length_le

theorem trimStart_cons {c : Char} {text : Text} (isBlankFirst : isBlank c = true) :
    trimStart (c :: text) = trimStart text := by
  simp [trimStart, isBlankFirst]

theorem trimStart_eq_self {text : Text} (kept : ∀ c ∈ text.head?, isBlank c = false) :
    trimStart text = text := by
  cases text with
  | nil => rfl
  | cons c rest => simp [trimStart, kept c (by simp)]

theorem trim_cons {c : Char} {text : Text} (isBlankFirst : isBlank c = true) :
    trim (c :: text) = trim text := by
  rw [trim, trimStart_cons isBlankFirst, trim]

theorem trim_filled {c : Char} (kept : isBlank c = false) (text : Text) :
    trim (c :: text) = c :: trimEnd text := by
  rw [trim, trimStart_eq_self (by simpa using kept), trimEnd, dropEndWhile_cons kept, trimEnd]

theorem Trimmed.trim_eq {text : Text} (trimmed : Trimmed text) : trim text = text := by
  rw [trim, trimStart_eq_self trimmed.1, trimEnd, dropEndWhile_eq_self trimmed.2]

theorem Trimmed.not_blank {text : Text} (trimmed : Trimmed text) (filled : text ≠ []) :
    blank text = false := by
  obtain ⟨c, rest, rfl⟩ := List.exists_cons_of_ne_nil filled
  have first : isBlank c = false := trimmed.1 c rfl
  simp [blank, first]

theorem isBlank_of_trimEnd {text : Text} : ∀ c ∈ (trimEnd text).getLast?, isBlank c = false := by
  intro c member
  have last := List.head?_dropWhile_not isBlank text.reverse
  rw [trimEnd, dropEndWhile, List.getLast?_reverse] at member
  rw [Option.mem_def.mp member] at last
  exact last

theorem trim_eq_self_iff {text : Text} : trim text = text ↔ Trimmed text := by
  refine ⟨fun same => ?_, Trimmed.trim_eq⟩
  have front : trimStart text = text := by
    refine (List.dropWhile_suffix isBlank).sublist.eq_of_length_le ?_
    calc text.length = (trim text).length := by rw [same]
      _ ≤ (trimStart text).length := length_dropEndWhile_le _ _
  have back : trimEnd text = text := by
    rwa [trim, front] at same
  constructor
  · intro c member
    have first := List.head?_dropWhile_not isBlank text
    rw [← trimStart, front, Option.mem_def.mp member] at first
    exact first
  · intro c member
    exact isBlank_of_trimEnd c (back.symm ▸ member)

theorem exists_trimEnd (text : Text) :
    ∃ tail, text = trimEnd text ++ tail ∧ ∀ c ∈ tail, isBlank c = true := by
  refine ⟨(text.reverse.takeWhile isBlank).reverse, ?_, fun c member => ?_⟩
  · rw [trimEnd, dropEndWhile, ← List.reverse_append, List.takeWhile_append_dropWhile,
      List.reverse_reverse]
  · rw [List.mem_reverse] at member
    exact (List.mem_takeWhile_imp member :)

/-- What goes is blank, at either end. -/
theorem exists_trim (text : Text) :
    ∃ lead tail, text = lead ++ (trim text ++ tail) ∧ (∀ c ∈ lead, isBlank c = true) ∧
      ∀ c ∈ tail, isBlank c = true := by
  obtain ⟨tail, whole, blank⟩ := exists_trimEnd (trimStart text)
  refine ⟨text.takeWhile isBlank, tail, ?_, ?_, blank⟩
  · rw [trim, ← whole, trimStart, List.takeWhile_append_dropWhile]
  · exact fun c member => (List.mem_takeWhile_imp member :)

theorem head?_trimEnd {text : Text} {c : Char} (first : (trimEnd text).head? = some c) :
    text.head? = some c := by
  obtain ⟨tail, whole, _⟩ := exists_trimEnd text
  obtain ⟨rest, filled⟩ := List.head?_eq_some_iff.mp first
  rw [whole, filled]
  rfl

theorem trimmed_trim (text : Text) : Trimmed (trim text) := by
  constructor
  · intro c member
    have first := List.head?_dropWhile_not isBlank text
    have kept : (trimStart text).head? = some c := head?_trimEnd (Option.mem_def.mp member)
    rw [← trimStart, kept] at first
    exact first
  · exact isBlank_of_trimEnd

theorem trim_trim (text : Text) : trim (trim text) = trim text := (trimmed_trim text).trim_eq

/-- Behind a trimmed text, only the end of what follows is trimmed. -/
theorem Trimmed.trim_append {text : Text} (trimmed : Trimmed text) (filled : text ≠ [])
    (tail : Text) : trim (text ++ tail) = text ++ trimEnd tail := by
  obtain ⟨front, c, rfl⟩ : ∃ front c, text = front ++ [c] :=
    ⟨_, _, (List.dropLast_concat_getLast filled).symm⟩
  have last : isBlank c = false := trimmed.2 c (by simp)
  have first : ∀ d ∈ (front ++ c :: tail).head?, isBlank d = false := by
    cases front with
    | nil => simpa using last
    | cons d rest => simpa using trimmed.1
  rw [List.append_assoc, List.append_assoc, List.singleton_append, List.singleton_append, trim,
    trimStart_eq_self first, trimEnd, dropEndWhile_append_cons last, trimEnd]

theorem Trimmed.trim_concat {text : Text} {c : Char} (trimmed : Trimmed text) (filled : text ≠ [])
    (isBlankLast : isBlank c = true) : trim (text ++ [c]) = text := by
  have gone : trimEnd [c] = [] := by simp [trimEnd, dropEndWhile, isBlankLast]
  rw [trimmed.trim_append filled, gone, List.append_nil]

theorem Trimmed.trim_behind {text : Text} {c : Char} (trimmed : Trimmed text) (filled : text ≠ [])
    (middle : Text) (kept : isBlank c = false) (rest : Text) :
    trim (text ++ middle ++ c :: rest) = text ++ middle ++ c :: trimEnd rest := by
  rw [List.append_assoc, trimmed.trim_append filled, trimEnd, dropEndWhile_append_cons kept,
    ← List.append_assoc, trimEnd]

theorem Trimmed.append {left middle right : Text} (first : Trimmed left) (second : Trimmed right)
    (leftFilled : left ≠ []) (rightFilled : right ≠ []) : Trimmed (left ++ middle ++ right) := by
  obtain ⟨c, rest, rfl⟩ := List.exists_cons_of_ne_nil leftFilled
  refine ⟨by simpa using first.1, ?_⟩
  have last : (c :: rest ++ middle ++ right).getLast? = right.getLast? := by
    rw [List.getLast?_append, Option.or_eq_left_of_isSome (by simpa using rightFilled)]
  rw [last]
  exact second.2

end SeedCoverage.Text

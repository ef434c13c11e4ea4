import SeedCoverage.Text.Blank

/-! Letter case. Where a class of characters holds a letter in both cases or in neither, a text is cut at
the same places in any case. -/
namespace SeedCoverage

/-- A character stays as it is in lower case, or it is a capital letter. -/
theorem toLower_cases (c : Char) :
    c.toLower = c ∨ (65 ≤ c.toNat ∧ c.toNat ≤ 90 ∧ c.toLower.toNat = c.toNat + 32) := by
  unfold Char.toLower
  split
  · rename_i capital
    have range : 65 ≤ c.toNat ∧ c.toNat ≤ 90 := capital
    refine .inr ⟨range.1, range.2, ?_⟩
    change (c.toNat + 32) % 4294967296 = c.toNat + 32
    omega
  · exact .inl rfl

theorem isAlpha_of_toNat {c : Char}
    (letter : (65 ≤ c.toNat ∧ c.toNat ≤ 90) ∨ (97 ≤ c.toNat ∧ c.toNat ≤ 122)) :
    c.isAlpha = true := by
  refine Bool.or_eq_true_iff.mpr ?_
  rcases letter with upper | lower
  · have capital : 'A'.val ≤ c.val ∧ c.val ≤ 'Z'.val := upper
    exact .inl (decide_eq_true capital)
  · have small : 'a'.val ≤ c.val ∧ c.val ≤ 'z'.val := lower
    exact .inr (Bool.and_eq_true_iff.mpr ⟨decide_eq_true small.1, decide_eq_true small.2⟩)

/-- What is no letter in lower case is the same in upper case. -/
theorem eq_of_toLower {c d : Char} (lowered : c.toLower = d) (plain : d.isAlpha = false) : c = d := by
  rcases toLower_cases c with same | ⟨least, most, code⟩
  · rw [← same, lowered]
  · have alpha : d.isAlpha = true := isAlpha_of_toNat (.inr (by rw [← lowered, code]; omega))
    rw [alpha] at plain
    cases plain

theorem toLower_eq_iff {c d : Char} (plain : d.isAlpha = false) : c.toLower = d ↔ c = d := by
  refine ⟨fun lowered => eq_of_toLower lowered plain, ?_⟩
  rintro rfl
  rcases toLower_cases c with same | ⟨least, most, _⟩
  · exact same
  · rw [isAlpha_of_toNat (.inl ⟨least, most⟩)] at plain
    cases plain

theorem toLower_toLower (c : Char) : c.toLower.toLower = c.toLower := by
  rcases toLower_cases c with same | ⟨least, most, code⟩
  · rw [same, same]
  · rcases toLower_cases c.toLower with same | ⟨_, high, _⟩
    · exact same
    · omega

/-- Holds of a letter in both cases or in neither. -/
def CaseBlind (p : Char → Bool) : Prop := ∀ c, p c.toLower = p c

theorem CaseBlind.of_capital {p : Char → Bool}
    (letters : ∀ c : Char, (65 ≤ c.toNat ∧ c.toNat ≤ 90) ∨ (97 ≤ c.toNat ∧ c.toNat ≤ 122) →
      p c = p 'a') : CaseBlind p := by
  intro c
  rcases toLower_cases c with same | ⟨least, most, code⟩
  · rw [same]
  · rw [letters c (.inl ⟨least, most⟩), letters c.toLower (.inr (by omega))]

theorem CaseBlind.comp {p : Char → Bool} (blind : CaseBlind p) : p ∘ Char.toLower = p := funext blind

theorem toLower_beq {c d : Char} (plain : d.isAlpha = false) : (c.toLower == d) = (c == d) := by
  rw [Bool.eq_iff_iff, beq_iff_eq, beq_iff_eq, toLower_eq_iff plain]

theorem toLower_bne {c d : Char} (plain : d.isAlpha = false) : (c.toLower != d) = (c != d) :=
  congrArg (!·) (toLower_beq plain)

theorem isBlank_caseBlind : CaseBlind isBlank := by
  apply CaseBlind.of_capital
  intro c letter
  have other : isBlank c = false := by
    simp only [isBlank, Bool.or_eq_false_iff, Bool.and_eq_false_iff, decide_eq_false_iff_not,
      beq_eq_false_iff_ne]
    omega
  rw [other]
  rfl

theorem isAsciiBlank_caseBlind : CaseBlind isAsciiBlank := by
  intro c
  simp (disch := decide) only [isAsciiBlank, toLower_beq]

namespace Text

variable {p : Char → Bool}

@[simp] theorem lower_nil : lower [] = [] := rfl

@[simp] theorem lower_cons (c : Char) (text : Text) : lower (c :: text) = c.toLower :: lower text := rfl

theorem lower_append (left right : Text) : lower (left ++ right) = lower left ++ lower right :=
  List.map_append

@[simp] theorem lower_lower (text : Text) : lower (lower text) = lower text := by
  induction text with
  | nil => rfl
  | cons c rest ih => rw [lower_cons, lower_cons, toLower_toLower, ih]

theorem lower_eq_iff {text signs : Text} (plain : ∀ c ∈ signs, c.isAlpha = false) :
    lower text = signs ↔ text = signs := by
  induction text generalizing signs with
  | nil => rfl
  | cons c rest ih =>
    cases signs with
    | nil => simp only [lower_cons, reduceCtorEq]
    | cons d signs =>
      rw [lower_cons, List.cons.injEq, List.cons.injEq, toLower_eq_iff (plain d (by simp)),
        ih fun e member => plain e (List.mem_cons_of_mem d member)]

theorem same_lower (left right : Text) : same (lower left) right = same left right := by
  rw [same, lower_lower, same]

theorem dropWhile_lower (blind : CaseBlind p) (text : Text) :
    (lower text).dropWhile p = lower (text.dropWhile p) := by
  rw [lower, List.dropWhile_map, blind.comp, lower]

theorem takeWhile_lower (blind : CaseBlind p) (text : Text) :
    (lower text).takeWhile p = lower (text.takeWhile p) := by
  rw [lower, List.takeWhile_map, blind.comp, lower]

theorem dropEndWhile_lower (blind : CaseBlind p) (text : Text) :
    dropEndWhile p (lower text) = lower (dropEndWhile p text) := by
  have turned : (lower text).reverse = lower text.reverse := List.map_reverse.symm
  rw [dropEndWhile, turned, dropWhile_lower blind, dropEndWhile, lower, lower, List.map_reverse]

theorem trimStart_lower (text : Text) : trimStart (lower text) = lower (trimStart text) :=
  dropWhile_lower isBlank_caseBlind text

theorem trimEnd_lower (text : Text) : trimEnd (lower text) = lower (trimEnd text) :=
  dropEndWhile_lower isBlank_caseBlind text

theorem trim_lower (text : Text) : trim (lower text) = lower (trim text) := by
  rw [trim, trimStart_lower, trimEnd_lower, trim]

theorem blank_lower (text : Text) : blank (lower text) = blank text := by
  rw [blank, lower, List.all_map, isBlank_caseBlind.comp, blank]

theorem isEmpty_lower (text : Text) : (lower text).isEmpty = text.isEmpty := List.isEmpty_map

theorem head?_lower (text : Text) : (lower text).head? = text.head?.map Char.toLower := List.head?_map

theorem head?_lower_eq_some {sign : Char} (plain : sign.isAlpha = false) (text : Text) :
    (lower text).head? = some sign ↔ text.head? = some sign := by
  cases text with
  | nil => rfl
  | cons c rest =>
    rw [lower_cons, List.head?_cons, List.head?_cons, Option.some.injEq, Option.some.injEq,
      toLower_eq_iff plain]

theorem getLast?_lower (text : Text) : (lower text).getLast? = text.getLast?.map Char.toLower :=
  List.getLast?_map

theorem take_lower (size : Nat) (text : Text) : (lower text).take size = lower (text.take size) :=
  List.map_take.symm

theorem drop_lower (size : Nat) (text : Text) : (lower text).drop size = lower (text.drop size) :=
  List.map_drop.symm

end Text
end SeedCoverage

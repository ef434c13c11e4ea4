import SeedCoverage.Proofs.Text.Case
import SeedCoverage.Sql.Search
import SeedCoverage.Text.Offset
import SeedCoverage.Text.Utf8

/-! A text as its bytes. Every byte stands as the character of its code, so that what reads characters
reads bytes too: a character of ASCII is its only byte, and no byte of another one is in ASCII. -/
namespace SeedCoverage

def isAsciiChar (c : Char) : Bool := c.toNat < 0x80

theorem isAsciiChar_caseBlind : CaseBlind isAsciiChar := by
  apply CaseBlind.of_capital
  intro c letter
  exact decide_eq_true (by omega)

namespace Text

/-- The bytes of a text in UTF-8. -/
def octets (text : Text) : Text := (Utf8.encode text).map fun byte => Char.ofNat byte.toNat

/-- Holds of every byte of a character just where it holds of the character. -/
def Bytewise (p : Char → Bool) : Prop := ∀ c, ∀ byte ∈ octets [c], p byte = p c

variable {p : Char → Bool} {c : Char} {text : Text}

theorem octets_append (left right : Text) : octets (left ++ right) = octets left ++ octets right := by
  rw [octets, Utf8.encode, List.flatMap_append, List.map_append]
  rfl

theorem octets_cons (c : Char) (text : Text) : octets (c :: text) = octets [c] ++ octets text :=
  octets_append [c] text

theorem octets_singleton (c : Char) :
    octets [c] = (String.utf8EncodeChar c).map fun byte => Char.ofNat byte.toNat := by
  rw [octets, Utf8.encode, List.flatMap_singleton]

theorem length_octets (text : Text) : (octets text).length = byteSize text := by
  induction text with
  | nil => rfl
  | cons c rest ih =>
    rw [octets_cons, List.length_append, ih, octets_singleton, List.length_map,
      String.length_utf8EncodeChar, byteSize]

theorem byteSize_pos (filled : text ≠ []) : 0 < byteSize text := by
  obtain ⟨c, rest, rfl⟩ := List.exists_cons_of_ne_nil filled
  rw [byteSize]
  have := c.utf8Size_pos
  omega

theorem byteSize_lt_iff {left right : Text} (begins : left <+: text) (begins' : right <+: text) :
    byteSize left < byteSize right ↔ left.length < right.length := by
  constructor
  · intro fewer
    refine Nat.lt_of_not_le fun longer => ?_
    obtain ⟨more, rfl⟩ := List.prefix_of_prefix_length_le begins' begins longer
    rw [byteSize_append] at fewer
    omega
  · intro shorter
    obtain ⟨more, rfl⟩ := List.prefix_of_prefix_length_le begins begins' (Nat.le_of_lt shorter)
    have some_letter : more ≠ [] := by
      rintro rfl
      rw [List.append_nil] at shorter
      exact Nat.lt_irrefl _ shorter
    have := byteSize_pos some_letter
    rw [byteSize_append]
    omega

theorem octets_ne_nil (c : Char) : octets [c] ≠ [] := by
  have size : 0 < (octets [c]).length := by
    rw [length_octets, byteSize, byteSize]
    exact c.utf8Size_pos
  exact List.ne_nil_of_length_pos size

theorem toNat_ofNat_of_lt {code : Nat} (small : code < 256) : (Char.ofNat code).toNat = code := by
  have valid : code.isValidChar := .inl (by omega)
  rw [Char.ofNat, dif_pos valid]
  rfl

theorem octets_of_ascii (ascii : isAsciiChar c = true) : octets [c] = [c] := by
  have small : c.toNat < 128 := of_decide_eq_true ascii
  have code : c.val.toNat = c.toNat := rfl
  rw [octets_singleton, String.utf8EncodeChar]
  simp only [code, if_pos (Nat.le_of_lt_succ small), List.map_singleton, UInt8.toNat_ofNat']
  rw [Nat.mod_eq_of_lt (by omega), Char.ofNat_toNat]

theorem high_of_mem_octets (other : isAsciiChar c = false) :
    ∀ byte ∈ octets [c], isAsciiChar byte = false := by
  have large : 128 ≤ c.val.toNat := Nat.le_of_not_lt (of_decide_eq_false other)
  have high : ∀ byte ∈ String.utf8EncodeChar c, 128 ≤ byte.toNat := by
    rw [String.utf8EncodeChar]
    simp only [if_neg (show ¬c.val.toNat ≤ 127 by omega)]
    split
    · simp only [List.forall_mem_cons, List.not_mem_nil, false_implies, implies_true, and_true,
        UInt8.toNat_ofNat']
      omega
    · split <;>
      · simp only [List.forall_mem_cons, List.not_mem_nil, false_implies, implies_true, and_true,
          UInt8.toNat_ofNat']
        omega
  rw [octets_singleton]
  intro byte member
  obtain ⟨source, present, rfl⟩ := List.mem_map.mp member
  have least := high source present
  have most := source.toNat_lt
  rw [isAsciiChar, toNat_ofNat_of_lt most, decide_eq_false_iff_not]
  omega

theorem octets_ascii_cons (ascii : isAsciiChar c = true) (text : Text) :
    octets (c :: text) = c :: octets text := by
  rw [octets_cons, octets_of_ascii ascii, List.singleton_append]

theorem octets_eq_self (ascii : ∀ c ∈ text, isAsciiChar c = true) : octets text = text := by
  induction text with
  | nil => rfl
  | cons c rest ih =>
    rw [octets_ascii_cons (ascii c (by simp)), ih fun d member => ascii d (by simp [member])]

theorem byteSize_eq_length (ascii : ∀ c ∈ text, isAsciiChar c = true) :
    byteSize text = text.length := by
  rw [← length_octets, octets_eq_self ascii]

theorem byteSize_singleton (ascii : isAsciiChar c = true) : byteSize [c] = 1 :=
  byteSize_eq_length (by simpa using ascii)

theorem drop_octets (front back : Text) :
    (octets (front ++ back)).drop (byteSize front) = octets back := by
  rw [octets_append, ← length_octets, List.drop_left]

theorem byteSize_le_octets (front back : Text) :
    byteSize front ≤ (octets (front ++ back)).length := by
  rw [length_octets, byteSize_append]
  exact Nat.le_add_right _ _

theorem take_octets (front back : Text) :
    (octets (front ++ back)).take (byteSize front) = octets front := by
  rw [octets_append, ← length_octets, List.take_left]

/-- What does not tell characters outside ASCII apart does not tell their bytes apart. -/
theorem Bytewise.of_high (value : Bool) (high : ∀ c, isAsciiChar c = false → p c = value) :
    Bytewise p := by
  intro c byte member
  cases ascii : isAsciiChar c with
  | true =>
    rw [octets_of_ascii ascii, List.mem_singleton] at member
    rw [member]
  | false => rw [high c ascii, high byte (high_of_mem_octets ascii byte member)]

namespace Bytewise

theorem takeWhile_octets (bytewise : Bytewise p) (text : Text) :
    (octets text).takeWhile p = octets (text.takeWhile p) := by
  induction text with
  | nil => rfl
  | cons c rest ih =>
    rw [octets_cons, List.takeWhile_cons]
    split
    · rename_i holds
      rw [List.takeWhile_append_of_pos fun byte member => (bytewise c byte member).trans holds, ih,
        ← octets_cons]
    · rename_i fails
      obtain ⟨byte, bytes, whole⟩ := List.exists_cons_of_ne_nil (octets_ne_nil c)
      have first : ¬p byte = true := by rwa [bytewise c byte (by simp [whole])]
      rw [whole, List.cons_append, List.takeWhile_cons_of_neg first]
      rfl

theorem head?_octets (bytewise : Bytewise p) (text : Text) :
    (octets text).head?.any p = text.head?.any p := by
  cases text with
  | nil => rfl
  | cons c rest =>
    obtain ⟨byte, bytes, whole⟩ := List.exists_cons_of_ne_nil (octets_ne_nil c)
    rw [octets_cons, whole]
    exact bytewise c byte (by simp [whole])

theorem getLast?_octets (bytewise : Bytewise p) (text : Text) :
    (octets text).getLast?.any p = text.getLast?.any p := by
  rcases List.eq_nil_or_concat text with rfl | ⟨rest, c, rfl⟩
  · rfl
  · obtain ⟨bytes, byte, whole⟩ := (List.eq_nil_or_concat (octets [c])).resolve_left (octets_ne_nil c)
    simp only [List.concat_eq_append] at whole ⊢
    rw [octets_append, whole, ← List.append_assoc, List.getLast?_concat, List.getLast?_concat]
    exact bytewise c byte (by simp [whole])

end Bytewise

theorem ne_of_high {c d : Char} (high : isAsciiChar c = false) (ascii : isAsciiChar d = true) :
    c ≠ d := by
  rintro rfl
  rw [ascii] at high
  cases high

theorem head?_octets_eq_some {sign : Char} (ascii : isAsciiChar sign = true) (text : Text) :
    (octets text).head? = some sign ↔ text.head? = some sign := by
  have same : Bytewise (· == sign) :=
    .of_high false fun c high => beq_eq_false_iff_ne.mpr (ne_of_high high ascii)
  have shows (next : Option Char) : next = some sign ↔ next.any (· == sign) = true := by
    cases next with
    | none => simp
    | some c => simp
  rw [shows, same.head?_octets, ← shows]

theorem isAsciiBlank_of_high (high : isAsciiChar c = false) : isAsciiBlank c = false := by
  have other (d : Char) (ascii : isAsciiChar d = true) : (c == d) = false :=
    beq_eq_false_iff_ne.mpr (ne_of_high high ascii)
  simp (disch := decide) only [isAsciiBlank, other, Bool.or_false]

theorem isAsciiBlank_bytewise : Bytewise isAsciiBlank := .of_high false fun _ => isAsciiBlank_of_high

theorem isNameChar_bytewise : Bytewise Sql.isNameChar := by
  refine .of_high true fun c high => ?_
  have large : 0x80 ≤ c.toNat := Nat.le_of_not_lt (of_decide_eq_false high)
  rw [Sql.isNameChar, decide_eq_true large, Bool.or_true]

end Text
end SeedCoverage

import SeedCoverage.Proofs.Bytes.Octets
import SeedCoverage.Proofs.Result

/-! Cuts at byte offsets. A cut is refused where an offset is past the end or inside a character, or
where the offsets stand the wrong way round. -/
namespace SeedCoverage

/-- Why a program that works on offsets breaks off. -/
inductive Breach where
  | pastEnd
  | insideCharacter
  | reversed
  /-- A loop comes back to an offset at which it has been. -/
  | stalled
  deriving DecidableEq, Repr

/-- What a program gives that breaks off at the first bad offset. -/
abbrev Checked := Except Breach

namespace Text

/-- The text before an offset, and the text from there on. -/
def parted : Text → Nat → Checked (Text × Text)
  | text, 0 => .ok ([], text)
  | [], _ + 1 => .error .pastEnd
  | c :: rest, offset + 1 =>
    if c.utf8Size ≤ offset + 1 then
      (parted rest (offset + 1 - c.utf8Size)).map fun (front, back) => (c :: front, back)
    else .error .insideCharacter

/-- The text between two offsets. -/
def cut (text : Text) (first last : Nat) : Checked Text :=
  if last < first then .error .reversed
  else do
    let (head, _) ← parted text last
    let (_, middle) ← parted head first
    return middle

/-- The text from an offset on. -/
def cutFrom (text : Text) (first : Nat) : Checked Text := cut text first (byteSize text)

/-- The byte at an offset. -/
def byteAt (bytes : Text) (offset : Nat) : Checked Char :=
  match bytes[offset]? with
  | some byte => .ok byte
  | none => .error .pastEnd

/-- The bytes between two offsets. -/
def bytesBetween (bytes : Text) (first last : Nat) : Checked Text :=
  if last < first then .error .reversed
  else if bytes.length < last then .error .pastEnd
  else .ok ((bytes.take last).drop first)

/-- The bytes from an offset on. -/
def bytesFrom (bytes : Text) (first : Nat) : Checked Text := bytesBetween bytes first bytes.length

/-- How much greater one offset is than another. -/
def distance (first last : Nat) : Checked Nat :=
  if last < first then .error .reversed else .ok (last - first)

/-- A place between characters, or at an end of the text. -/
def IsPlace (text : Text) (offset : Nat) : Prop :=
  ∃ front back, text = front ++ back ∧ offset = byteSize front

variable {text front middle back : Text} {first last : Nat}

theorem parted_byteSize (front back : Text) :
    parted (front ++ back) (byteSize front) = .ok (front, back) := by
  induction front with
  | nil => cases back <;> rfl
  | cons c rest ih =>
    obtain ⟨size, positive⟩ := Nat.exists_eq_add_one.mpr c.utf8Size_pos
    have total : byteSize (c :: rest) = (size + byteSize rest) + 1 := by
      rw [byteSize, positive]
      omega
    have left : size + byteSize rest + 1 - c.utf8Size = byteSize rest := by omega
    rw [total, List.cons_append, parted, if_pos (by omega), left, ih]
    rfl

theorem parted_eq_ok (parts : parted text first = .ok (front, back)) :
    text = front ++ back ∧ first = byteSize front := by
  fun_induction parted text first generalizing front with
  | case1 =>
    obtain ⟨rfl, rfl⟩ := Prod.mk.inj (Except.ok.inj parts)
    exact ⟨rfl, rfl⟩
  | case2 => cases parts
  | case3 c rest offset fits ih =>
    cases inner : parted rest (offset + 1 - c.utf8Size) with
    | error breach =>
      rw [inner] at parts
      cases parts
    | ok halves =>
      rw [inner] at parts
      obtain ⟨rfl, rfl⟩ := Prod.mk.inj (Except.ok.inj parts)
      obtain ⟨whole, size⟩ := ih inner
      rw [whole, byteSize, ← size]
      exact ⟨rfl, by omega⟩
  | case4 => cases parts

/-- A cut goes through just where both offsets are places between characters, in this order. -/
theorem cut_eq_ok_iff :
    cut text first last = .ok middle ↔
      ∃ front back, text = front ++ (middle ++ back) ∧ first = byteSize front ∧
        last = byteSize (front ++ middle) := by
  constructor
  · intro done
    unfold cut at done
    split at done
    · cases done
    · cases outer : parted text last with
      | error breach =>
        rw [outer] at done
        cases done
      | ok halves =>
        obtain ⟨head, back⟩ := halves
        cases inner : parted head first with
        | error breach =>
          simp only [outer, inner, bind, Except.bind] at done
          cases done
        | ok pieces =>
          obtain ⟨front, other⟩ := pieces
          simp only [outer, inner, bind, Except.bind, pure, Except.pure, Except.ok.injEq] at done
          obtain rfl := done
          obtain ⟨rfl, begins⟩ := parted_eq_ok inner
          obtain ⟨rfl, ends⟩ := parted_eq_ok outer
          exact ⟨front, back, List.append_assoc .., begins, ends⟩
  · rintro ⟨front, back, rfl, rfl, rfl⟩
    have ordered : ¬byteSize (front ++ middle) < byteSize front := by
      rw [byteSize_append]
      omega
    rw [cut, if_neg ordered, ← List.append_assoc, parted_byteSize]
    simp only [bind, Except.bind, parted_byteSize]
    rfl

theorem cut_goes_iff :
    (∃ middle, cut text first last = .ok middle) ↔
      first ≤ last ∧ last ≤ byteSize text ∧ IsPlace text first ∧ IsPlace text last := by
  constructor
  · rintro ⟨middle, done⟩
    obtain ⟨front, back, rfl, rfl, rfl⟩ := cut_eq_ok_iff.mp done
    refine ⟨?_, ?_, ⟨front, _, rfl, rfl⟩, ⟨front ++ middle, back, by rw [List.append_assoc], rfl⟩⟩
    · rw [byteSize_append]
      omega
    · simp only [byteSize_append]
      omega
  · rintro ⟨ordered, _, ⟨front, _, whole, rfl⟩, ⟨front', back, rfl, rfl⟩⟩
    have begins : front <+: front' ++ back := ⟨_, whole.symm⟩
    have begins' : front' <+: front' ++ back := ⟨back, rfl⟩
    have shorter : front.length ≤ front'.length :=
      Nat.le_of_not_lt fun longer =>
        Nat.not_lt.mpr ordered ((byteSize_lt_iff begins' begins).mpr longer)
    obtain ⟨middle, rfl⟩ := List.prefix_of_prefix_length_le begins begins' shorter
    exact ⟨middle, cut_eq_ok_iff.mpr ⟨front, back, List.append_assoc .., rfl, rfl⟩⟩

theorem cut_ok (whole : front ++ (middle ++ back) = text) (begins : byteSize front = first)
    (ends : byteSize (front ++ middle) = last) : cut text first last = .ok middle :=
  cut_eq_ok_iff.mpr ⟨front, back, whole.symm, begins.symm, ends.symm⟩

theorem cutFrom_ok (whole : front ++ back = text) (begins : byteSize front = first) :
    cutFrom text first = .ok back :=
  have whole' : front ++ (back ++ []) = text := by rw [List.append_nil, whole]
  cut_ok whole' begins (by rw [whole])

theorem bytesFrom_ok {bytes : Text} (inside : first ≤ bytes.length) :
    bytesFrom bytes first = .ok (bytes.drop first) := by
  rw [bytesFrom, bytesBetween, if_neg (Nat.not_lt.mpr inside), if_neg (Nat.lt_irrefl _),
    List.take_length]

theorem bytesBetween_ok {bytes : Text} (ordered : first ≤ last) (inside : last ≤ bytes.length) :
    bytesBetween bytes first last = .ok ((bytes.take last).drop first) := by
  rw [bytesBetween, if_neg (Nat.not_lt.mpr ordered), if_neg (Nat.not_lt.mpr inside)]

end Text
end SeedCoverage

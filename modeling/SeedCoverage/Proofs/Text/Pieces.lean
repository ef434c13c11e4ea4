import SeedCoverage.Text.Basic

/-! Texts in pieces. A text is cut at a mark and put together with it between the pieces or behind them; what
is written of numbers holds no mark. -/
namespace SeedCoverage.Text

variable {mark : Char} {text : Text} {rows : List Text}

theorem splitOn_ne_nil (mark : Char) (text : Text) : splitOn mark text ≠ [] := by
  cases text with
  | nil => simp [splitOn]
  | cons c rest =>
    rw [splitOn]
    split
    · simp
    · split <;> simp

theorem splitOn_append (mark : Char) (left right : Text) :
    splitOn mark (left ++ mark :: right) = splitOn mark left ++ splitOn mark right := by
  induction left with
  | nil => simp [splitOn]
  | cons c rest ih =>
    rw [List.cons_append, splitOn, splitOn, ih]
    split
    · rfl
    · cases pieces : splitOn mark rest with
      | nil => exact absurd pieces (splitOn_ne_nil mark rest)
      | cons piece pieces => rfl

theorem splitOn_of_notMem (whole : mark ∉ text) : splitOn mark text = [text] := by
  induction text with
  | nil => rfl
  | cons c rest ih =>
    rw [List.mem_cons, not_or] at whole
    rw [splitOn, if_neg (Ne.symm whole.1), ih whole.2]

theorem length_splitOn (mark : Char) (text : Text) :
    (splitOn mark text).length = text.count mark + 1 := by
  induction text with
  | nil => rfl
  | cons c rest ih =>
    rw [splitOn]
    split
    · rename_i here
      rw [here, List.count_cons_self, List.length_cons, ih]
    · rename_i other
      rw [List.count_cons_of_ne other, ← ih]
      cases split : splitOn mark rest with
      | nil => exact absurd split (splitOn_ne_nil mark rest)
      | cons piece pieces => rfl

theorem lines_cons (row : Text) (rest : List Text) : lines (row :: rest) = row ++ '\n' :: lines rest := by
  simp [lines]

/-- Lines that hold no line feed are what a text of lines is cut into. -/
theorem splitOn_lines (single : ∀ row ∈ rows, '\n' ∉ row) : splitOn '\n' (lines rows) = rows ++ [[]] := by
  induction rows with
  | nil => rfl
  | cons row rest ih =>
    obtain ⟨first, others⟩ := List.forall_mem_cons.mp single
    rw [lines_cons, splitOn_append, splitOn_of_notMem first, ih others]
    rfl

theorem mem_join {c : Char} {separator : Text} {parts : List Text} (member : c ∈ join separator parts) :
    c ∈ separator ∨ ∃ part ∈ parts, c ∈ part := by
  fun_induction join separator parts with
  | case1 => cases member
  | case2 only => exact .inr ⟨only, List.mem_singleton_self only, member⟩
  | case3 first rest _ ih =>
    rcases List.mem_append.mp member with front | later
    · rcases List.mem_append.mp front with here | between
      · exact .inr ⟨first, List.mem_cons_self, here⟩
      · exact .inl between
    · refine (ih later).imp_right ?_
      rintro ⟨part, present, inside⟩
      exact ⟨part, List.mem_cons_of_mem first present, inside⟩

theorem isDigit_of_mem_ofNat {value : Nat} {c : Char} (member : c ∈ ofNat value) : c.isDigit = true :=
  Nat.isDigit_of_mem_toDigits (by decide) (by decide) member

theorem notMem_ofNat {value : Nat} (other : mark.isDigit = false) : mark ∉ ofNat value := by
  intro member
  simp [isDigit_of_mem_ofNat member] at other

end SeedCoverage.Text

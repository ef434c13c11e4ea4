import SeedCoverage.Text.Basic

/-! Parts of texts. A part without a certain character stands in front of that character or behind it. -/
namespace SeedCoverage.Text

variable {text part left right : Text} {mark : Char}

theorem includes_iff : includes text part = true ↔ part <:+: text := by
  induction text with
  | nil => rw [includes, Bool.or_false, List.isPrefixOf_iff_prefix, List.prefix_nil, List.infix_nil]
  | cons c rest ih =>
    rw [includes, Bool.or_eq_true, List.isPrefixOf_iff_prefix, ih, List.infix_cons_iff]

theorem infix_cons_of_head (other : part.head? ≠ some mark) :
    part <:+: mark :: right ↔ part <:+: right := by
  rw [List.infix_cons_iff]
  constructor
  · rintro (start | inside)
    · cases part with
      | nil => exact List.nil_infix
      | cons c rest =>
        obtain ⟨rfl, _⟩ := List.cons_prefix_cons.mp start
        exact absurd rfl other
    · exact inside
  · exact .inr

theorem includes_cons_of_head (other : part.head? ≠ some mark) :
    includes (mark :: right) part = includes right part := by
  rw [Bool.eq_iff_iff, includes_iff, includes_iff, infix_cons_of_head other]

theorem infix_cons_of_absent (absent : mark ∉ part) : part <:+: mark :: right ↔ part <:+: right :=
  infix_cons_of_head fun first => absent (List.mem_of_head? first)

theorem infix_append_of_absent {front : Text} (absent : ∀ c ∈ front, c ∉ part) :
    part <:+: front ++ right ↔ part <:+: right := by
  induction front with
  | nil => rfl
  | cons c rest ih =>
    have later := ih fun other member => absent other (List.mem_cons_of_mem c member)
    rw [List.cons_append, infix_cons_of_absent (absent c List.mem_cons_self), later]

theorem infix_append_cons_of_absent (absent : mark ∉ part) :
    part <:+: left ++ mark :: right ↔ part <:+: left ∨ part <:+: right := by
  rw [List.infix_append_iff_ne_nil, infix_cons_of_absent absent]
  constructor
  · rintro (front | back | ⟨_, start, _, filled, rfl, _, across⟩)
    · exact .inl front
    · exact .inr back
    · obtain ⟨c, rest, rfl⟩ := List.exists_cons_of_ne_nil filled
      obtain ⟨rfl, _⟩ := List.cons_prefix_cons.mp across
      exact absurd (List.mem_append_right _ List.mem_cons_self) absent
  · rintro (front | back)
    · exact .inl front
    · exact .inr (.inl back)

/-- A part that does not have the character between two texts is in one of them. -/
theorem includes_append_cons (absent : mark ∉ part) :
    includes (left ++ mark :: right) part = (includes left part || includes right part) := by
  rw [Bool.eq_iff_iff, Bool.or_eq_true, includes_iff, includes_iff, includes_iff,
    infix_append_cons_of_absent absent]

/-- Nor does a part stand across several characters that it does not have. -/
theorem includes_between {middle : Text} (some : middle ≠ []) (absent : ∀ c ∈ middle, c ∉ part) :
    includes (left ++ middle ++ right) part = (includes left part || includes right part) := by
  obtain ⟨c, rest, rfl⟩ := List.exists_cons_of_ne_nil some
  have behind : part <:+: rest ++ right ↔ part <:+: right :=
    infix_append_of_absent fun other member => absent other (List.mem_cons_of_mem c member)
  rw [Bool.eq_iff_iff, Bool.or_eq_true, includes_iff, includes_iff, includes_iff, List.append_assoc,
    List.cons_append, infix_append_cons_of_absent (absent c List.mem_cons_self), behind]

end SeedCoverage.Text

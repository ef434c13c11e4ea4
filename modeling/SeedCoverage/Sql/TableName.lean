import SeedCoverage.Sql.Search

/-! Names of tables as statements write them: parts with a dot between them, each bare or in
double quotes or backticks. The last part is the name. -/
namespace SeedCoverage.Sql

open Text

/-- The marks that may enclose a part. -/
def isPartMark (c : Char) : Bool := c == '"' || c == '\x60'

/-- One part and the text behind it. -/
def namePart? : Text → Option (Text × Text)
  | [] => none
  | c :: rest =>
    if isPartMark c then
      match rest.dropWhile (· != c) with
      | [] => none
      | _ :: after => some (rest.takeWhile (· != c), after)
    else if isNameChar c then
      some (c :: rest.takeWhile isNameChar, rest.dropWhile isNameChar)
    else none

theorem namePart?_length {text part rest : Text} (h : namePart? text = some (part, rest)) :
    rest.length < text.length := by
  unfold namePart? at h
  split at h
  · cases h
  · rename_i c body
    split at h
    · split at h
      · cases h
      · rename_i mark after behind
        cases h
        have := (List.dropWhile_sublist (l := body) (· != c)).length_le
        simp only [behind, List.length_cons] at this ⊢
        omega
    · split at h
      · cases h
        have := (List.dropWhile_sublist (l := body) isNameChar).length_le
        simp only [List.length_cons]
        omega
      · cases h

/-- The trimmed last part at the start of `text` and what follows it; a blank part is no name. -/
def tableName? (text : Text) : Option (Text × Text) :=
  match _part : namePart? text with
  | none => none
  | some (_, '.' :: rest) => tableName? rest
  | some (name, rest) => if (trim name).isEmpty then none else some (trim name, rest)
termination_by text.length
decreasing_by
  have shorter := namePart?_length _part
  simp only [List.length_cons] at shorter
  omega

end SeedCoverage.Sql

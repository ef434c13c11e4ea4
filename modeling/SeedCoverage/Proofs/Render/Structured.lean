import Mathlib.Tactic.SplitIfs
import SeedCoverage.Proofs.Render.Plain
import SeedCoverage.Render.Data
import SeedCoverage.Yaml.Printer

/-! Structured formats hold no escape characters, whatever the texts hold that they write: JSON escapes them,
and YAML puts texts that hold one between double quotes and escapes them there. -/
namespace SeedCoverage.Render

open Text

/-- No escape character in a JSON value outside its strings. -/
inductive PlainOutside : Json → Prop where
  | null : PlainOutside .null
  | bool (value : Bool) : PlainOutside (.bool value)
  | number {spelling : Text} (plain : Plain spelling) : PlainOutside (.number spelling)
  | string (content : Text) : PlainOutside (.string content)
  | array {items : List Json} (each : ∀ item ∈ items, PlainOutside item) : PlainOutside (.array items)
  | object {members : List (Text × Json)} (names : ∀ member ∈ members, Plain member.1)
      (values : ∀ member ∈ members, PlainOutside member.2) : PlainOutside (.object members)

variable {value : Json} {items : List Json} {members : List (Text × Json)} {text : Text} {level : Nat}

namespace Pretty

theorem plain_escapeChar (c : Char) : Plain (Json.escapeChar c) := by
  have digit (value : Nat) : Json.hexDigit value ≠ '\x1b' := Nat.digitChar_ne _ (by decide)
  unfold Json.escapeChar
  repeat refine plain_ite (by simp [digit]) fun control => ?_
  rw [plain_cons]
  refine ⟨?_, plain_nil⟩
  rintro rfl
  exact control (by decide)

theorem plain_quote (text : Text) : Plain (Json.quote text) := by
  simp [Json.quote, Plain.flatMap fun c _ => plain_escapeChar c]

theorem plain_indent (level : Nat) : Plain (Json.indent level) := plain_replicate (by decide)

theorem plain_items (each : ∀ item ∈ items, ∀ level, Plain (Json.pretty level item)) (level : Nat) :
    Plain (Json.prettyItems level items) := by
  induction items with
  | nil => simp [Json.prettyItems]
  | cons item rest ih =>
    obtain ⟨first, others⟩ := List.forall_mem_cons.mp each
    cases rest with
    | nil => simp [Json.prettyItems, plain_indent, first]
    | cons second rest => simp [Json.prettyItems, plain_indent, first, ih others]

theorem plain_members (each : ∀ member ∈ members, ∀ level, Plain (Json.pretty level member.2))
    (level : Nat) : Plain (Json.prettyMembers level members) := by
  induction members with
  | nil => simp [Json.prettyMembers]
  | cons member rest ih =>
    obtain ⟨first, others⟩ := List.forall_mem_cons.mp each
    cases rest with
    | nil => simp [Json.prettyMembers, plain_indent, plain_quote, first]
    | cons second rest => simp [Json.prettyMembers, plain_indent, plain_quote, first, ih others]

theorem pretty_array (level : Nat) (item : Json) (rest : List Json) :
    Json.pretty level (.array (item :: rest)) =
      "[\n" ++ Json.prettyItems (level + 1) (item :: rest) ++ "\n" ++ Json.indent level ++ "]" := rfl

theorem pretty_object (level : Nat) (member : Text × Json) (rest : List (Text × Json)) :
    Json.pretty level (.object (member :: rest)) =
      "\x7b\n" ++ Json.prettyMembers (level + 1) (member :: rest) ++ "\n" ++ Json.indent level ++
        "\x7d" := rfl

/-- JSON text is plain where numbers are: names are quoted like strings. -/
theorem plain_pretty (outside : PlainOutside value) (level : Nat) : Plain (Json.pretty level value) := by
  induction outside generalizing level with
  | null => change Plain "null".toList; simp
  | bool value =>
    cases value with
    | false => change Plain "false".toList; simp
    | true => change Plain "true".toList; simp
  | number plain => exact plain
  | string content => exact plain_quote content
  | @array items each ih =>
    cases items with
    | nil => change Plain "[]".toList; simp
    | cons item rest => simp [pretty_array, plain_items ih, plain_indent]
  | @object members names values ih =>
    cases members with
    | nil => change Plain "\x7b\x7d".toList; simp
    | cons member rest => simp [pretty_object, plain_members ih, plain_indent]

end Pretty

namespace Block

open Yaml

theorem plain_indentation (level : Nat) : Plain (indentation level) := plain_replicate (by decide)

theorem plain_of_needsEscapes (kept : needsEscapes text = false) : Plain text := by
  simp only [needsEscapes, Bool.or_eq_false_iff, Bool.not_eq_false', List.all_eq_true] at kept
  intro member
  exact absurd (kept.1 _ member) (by decide)

/-- Only double quotes hold what cannot stand for itself. -/
theorem plain_of_style (other : Style.of text ≠ .double) : Plain text := by
  apply plain_of_needsEscapes
  unfold Style.of at other
  split_ifs at other with _ literal unquoted single
  · exact absurd rfl other
  · exact (Bool.or_eq_false_iff.mp (Bool.eq_false_iff.mpr literal)).1
  · simp only [plainAllowed, Bool.and_eq_true, Bool.not_eq_true', Bool.or_eq_false_iff] at unquoted
    exact unquoted.2.1.1.2
  · exact absurd rfl other
  · exact (Bool.or_eq_false_iff.mp (Bool.eq_false_iff.mpr single)).1

theorem digitChar_of_mem_toDigits {c : Char} {value : Nat} (member : c ∈ Nat.toDigits 16 value) :
    ∃ digit < 16, c = Nat.digitChar digit := by
  induction value using Nat.strongRecOn with
  | _ value ih =>
    rw [Nat.toDigits_eq_if (by decide)] at member
    split at member
    · rename_i small
      exact ⟨value, small, List.mem_singleton.mp member⟩
    · rcases List.mem_append.mp member with front | last
      · exact ih (value / 16) (Nat.div_lt_self (by omega) (by decide)) front
      · exact ⟨value % 16, Nat.mod_lt _ (by decide), List.mem_singleton.mp last⟩

theorem plain_hex (width value : Nat) : Plain (hex width value) := by
  have upper : ∀ digit < 16, (Nat.digitChar digit).toUpper ≠ '\x1b' := by decide
  have digits : Plain ((Nat.toDigits 16 value).map Char.toUpper) := by
    intro member
    obtain ⟨c, present, capital⟩ := List.mem_map.mp member
    obtain ⟨digit, small, rfl⟩ := digitChar_of_mem_toDigits present
    exact upper digit small capital
  rw [hex, plain_append]
  exact ⟨plain_replicate (by decide), digits⟩

theorem shortEscape?_ne {c letter : Char} (short : shortEscape? c = some letter) : letter ≠ '\x1b' := by
  unfold shortEscape? at short
  split at short <;> cases short <;> decide

theorem plain_escapeChar (c : Char) : Plain (escapeChar c) := by
  unfold escapeChar
  split
  · rename_i stands
    rw [plain_cons]
    refine ⟨?_, plain_nil⟩
    rintro rfl
    exact absurd stands (by decide)
  · rw [plain_cons]
    refine ⟨by decide, ?_⟩
    split
    · rename_i letter short
      simp [shortEscape?_ne short]
    · split_ifs <;> simp [plain_hex]

theorem plain_singleQuotedFrom (plain : Plain text) (indent : Nat) (broken : Bool) :
    Plain (singleQuotedFrom indent broken text) := by
  have blanks : Plain (List.replicate indent ' ') := plain_replicate (by decide)
  induction text generalizing broken with
  | nil => cases broken <;> simp [singleQuotedFrom, blanks]
  | cons c rest ih =>
    obtain ⟨first, others⟩ := plain_cons.mp plain
    rw [singleQuotedFrom]
    split_ifs <;> simp [first, ih others, blanks]

theorem plain_literalLines (plain : Plain text) (indent : Nat) (broken : Bool) :
    Plain (literalLines indent broken text) := by
  have blanks : Plain (List.replicate indent ' ') := plain_replicate (by decide)
  induction text generalizing broken with
  | nil => simp [literalLines]
  | cons c rest ih =>
    obtain ⟨first, others⟩ := plain_cons.mp plain
    rw [literalLines]
    split_ifs <;> simp [first, ih others, blanks]

theorem plain_chomping (text : Text) : Plain (chomping text) := by
  unfold chomping
  split
  · simp
  · split_ifs
    · simp
    · split
      · simp
      · split_ifs <;> simp

theorem plain_scalar (indent : Nat) (text : Text) : Plain (scalar indent text) := by
  unfold scalar
  cases style : Style.of text with
  | plain => exact plain_of_style (by simp [style])
  | single =>
    have plain : Plain text := plain_of_style (by simp [style])
    simp [singleQuoted, plain_singleQuotedFrom plain]
  | double => simp [doubleQuoted, Plain.flatMap fun c _ => plain_escapeChar c]
  | literal =>
    have plain : Plain text := plain_of_style (by simp [style])
    simp only [literal]
    split_ifs <;> simp [plain_chomping, plain_literalLines plain]

theorem plain_endLine (plain : Plain text) : Plain (endLine text) := by
  unfold endLine
  split_ifs <;> simp [plain]

theorem value_array (level : Nat) (item : Json) (rest : List Json) :
    Yaml.value level (.array (item :: rest)) = '\n' :: Yaml.items level (item :: rest) := rfl

theorem value_object (level : Nat) (member : Text × Json) (rest : List (Text × Json)) :
    Yaml.value level (.object (member :: rest)) = '\n' :: Yaml.members (level + 2) (member :: rest) := rfl

/-- A list or an object in a list begins on the line of its dash, with what it has on a line of its own. -/
theorem plain_items (each : ∀ item ∈ items, ∀ level, Plain (Yaml.value level item)) (level : Nat) :
    Plain (Yaml.items level items) := by
  induction items with
  | nil => simp [Yaml.items]
  | cons item rest ih =>
    obtain ⟨first, others⟩ := List.forall_mem_cons.mp each
    have later := ih others
    rw [Yaml.items.eq_def]
    split
    · simp
    · rename_i whole
      cases whole
      have inner := first level
      rw [value_object, plain_cons] at inner
      simp [plain_indentation, inner.2.drop, later]
    · rename_i whole
      cases whole
      have inner := first (level + 2)
      rw [value_array, plain_cons] at inner
      simp [plain_indentation, inner.2.drop, later]
    · rename_i whole
      cases whole
      simp [plain_indentation, first level, later]

theorem plain_members (names : ∀ member ∈ members, Plain member.1)
    (each : ∀ member ∈ members, ∀ level, Plain (Yaml.value level member.2)) (level : Nat) :
    Plain (Yaml.members level members) := by
  induction members with
  | nil => simp [Yaml.members]
  | cons member rest ih =>
    obtain ⟨name, others⟩ := List.forall_mem_cons.mp names
    obtain ⟨first, later⟩ := List.forall_mem_cons.mp each
    simp [Yaml.members, plain_indentation, name, first level, ih others later]

theorem plain_value (outside : PlainOutside value) (level : Nat) : Plain (Yaml.value level value) := by
  induction outside generalizing level with
  | null => change Plain " null\n".toList; simp
  | bool value =>
    cases value with
    | false => change Plain " false\n".toList; simp
    | true => change Plain " true\n".toList; simp
  | @number spelling plain => change Plain (' ' :: spelling ++ ['\n']); simp [plain]
  | string content =>
    change Plain (' ' :: endLine (scalar (level + 2) content))
    simp [plain_endLine (plain_scalar _ _)]
  | @array items each ih =>
    cases items with
    | nil => change Plain " []\n".toList; simp
    | cons item rest => simp [value_array, plain_items ih]
  | @object members names values ih =>
    cases members with
    | nil => change Plain " \x7b\x7d\n".toList; simp
    | cons member rest => simp [value_object, plain_members names ih]

theorem plain_render (outside : PlainOutside value) : Plain (Yaml.render value) := by
  unfold Yaml.render
  split
  · cases outside with
    | object names values =>
      exact plain_members names (fun member present => plain_value (values member present)) 0
  · cases outside with
    | array each => exact plain_items (fun item present => plain_value (each item present)) 0
  · exact (plain_value outside 0).drop 1

end Block

theorem PlainOutside.texts (values : List Text) : PlainOutside (.texts values) := by
  refine .array fun item member => ?_
  obtain ⟨content, -, rfl⟩ := List.mem_map.mp member
  exact .string content

theorem PlainOutside.ofNat (value : Nat) : PlainOutside (.ofNat value) := .number (plain_ofNat value)

theorem PlainOutside.map {α : Type} {list : List α} {write : α → Json}
    (each : ∀ entry ∈ list, PlainOutside (write entry)) : PlainOutside (.array (list.map write)) := by
  refine .array fun item member => ?_
  obtain ⟨entry, present, rfl⟩ := List.mem_map.mp member
  exact each entry present

theorem PlainOutside.named (each : ∀ member ∈ members, Plain member.1 ∧ PlainOutside member.2) :
    PlainOutside (.object members) :=
  .object (fun member present => (each member present).1) fun member present => (each member present).2

theorem plainOutside_tableCount (table : TableCount) : PlainOutside (Data.tableCount table) := by
  refine .named ?_
  simp [PlainOutside.string, PlainOutside.texts, PlainOutside.ofNat]

theorem plainOutside_gap (gap : Gap) : PlainOutside (Data.gap gap) := by
  refine .named ?_
  simp [PlainOutside.string, PlainOutside.texts, PlainOutside.ofNat]

theorem plainOutside_report (report : Report) : PlainOutside (Data.report report) := by
  have rows : PlainOutside (.array (report.rows.map Data.tableCount)) :=
    .map fun table _ => plainOutside_tableCount table
  have gaps : PlainOutside (.array (report.gaps.map Data.gap)) := .map fun gap _ => plainOutside_gap gap
  refine .named ?_
  split_ifs <;> simp [PlainOutside.string, PlainOutside.texts, PlainOutside.ofNat, rows, gaps]

theorem plainOutside_tableSpec (spec : TableSpec) : PlainOutside (Data.tableSpec spec) := by
  refine .named ?_
  cases spec.follows <;> simp [PlainOutside.string, PlainOutside.texts]

theorem plainOutside_catalog (tables : List TableSpec) : PlainOutside (Data.catalog tables) :=
  .map fun spec _ => plainOutside_tableSpec spec

end SeedCoverage.Render

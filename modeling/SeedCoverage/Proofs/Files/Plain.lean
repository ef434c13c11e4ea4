import Mathlib.Data.List.Basic
import SeedCoverage.Files.Tree
import SeedCoverage.Proofs.Result

/-! Trees without links. Every part of a path is one step there, whatever came before it, and where a path
leads can be told from its components. -/
namespace SeedCoverage.Files

open Text

/-- What an entry of a directory can be called. -/
structure IsName (name : Text) : Prop where
  filled : name ≠ []
  whole : '/' ∉ name
  notDot : name ≠ ['.']
  notDots : name ≠ ['.', '.']
  short : byteSize name ≤ FileTree.nameLimit

mutual
/-- A file, or a directory of plain entries. -/
def Entry.Plain : Entry → Prop
  | .file _ => True
  | .directory entries => Plain entries
  | .link _ => False

/-- Entries of different names, with no link among them or below them. -/
def Plain : List (Text × Entry) → Prop
  | [] => True
  | (name, entry) :: rest =>
    IsName name ∧ (∀ other ∈ rest, other.1 ≠ name) ∧ entry.Plain ∧ Plain rest
end

/-- Where a component leads from a place. -/
def Component.enter (place : Location) : Component → Location
  | .root => []
  | .current => place
  | .parent => place.dropLast
  | .name text => place ++ [text]

namespace FileTree

/-- Where one part of a path leads from a place, if it is not a link. -/
def enter (tree : FileTree) (place : Location) (part : Text) : Except AccessFault Location :=
  match entryAt? tree.root place with
  | some (.directory entries) =>
    if part = [] || part = ['.'] then .ok place
    else if part = ['.', '.'] then .ok place.dropLast
    else if nameLimit < byteSize part then .error .nameTooLong
    else match entry? entries part with
      | none => .error .notFound
      | some _ => .ok (place ++ [part])
  | _ => .error .notDirectory

/-- The place that a path names, however long it is. -/
def Names (tree : FileTree) (path : Text) (place : Location) : Prop :=
  tree.follow linkLimit (if isAbsolute path then [] else tree.current) (parts path) = .ok place

end FileTree

variable {tree : FileTree} {entries inner : Entries} {entry : Entry} {place below left right : Location}
  {path name part : Text}

section Entries

theorem Plain.of_mem (plain : Plain entries) (member : (name, entry) ∈ entries) :
    IsName name ∧ entry.Plain := by
  induction entries with
  | nil => cases member
  | cons first rest ih =>
    obtain ⟨named, -, sound, others⟩ := plain
    rcases List.mem_cons.mp member with rfl | later
    · exact ⟨named, sound⟩
    · exact ih others later

theorem Plain.entry_eq_some (plain : Plain entries) :
    entry? entries name = some entry ↔ (name, entry) ∈ entries := by
  induction entries with
  | nil => simp [ entry?]
  | cons first rest ih =>
    obtain ⟨other, held⟩ := first
    obtain ⟨-, apart, -, others⟩ := plain
    rw [List.mem_cons, ← ih others, entry?, List.find?_cons]
    by_cases here : other = name
    · subst here
      have absent : entry? rest other = none := by
        rw [ entry?, Option.map_eq_none_iff, List.find?_eq_none]
        exact fun later member equal => apart later member (beq_iff_eq.mp equal)
      simp [absent, eq_comm]
    · simp [beq_eq_false_iff_ne.mpr here, entry?, Ne.symm here]

theorem Plain.of_found (plain : Plain entries) (found : entry? entries name = some entry) :
    IsName name ∧ entry.Plain :=
  plain.of_mem (plain.entry_eq_some.mp found)

/-- A location leads through a directory, or ends at what it names first. -/
theorem entryAt?_cons (found : entryAt? entries (name :: right) = some entry) :
    (∃ inner, entry? entries name = some (.directory inner) ∧ entryAt? inner right = some entry) ∨
      right = [] ∧ entry? entries name = some entry := by
  rw [entryAt?] at found
  split at found
  · rename_i inner first
    exact .inl ⟨inner, first, found⟩
  · rename_i other _ first
    split at found
    · rename_i ended
      exact .inr ⟨List.isEmpty_iff.mp ended, first.trans found⟩
    · cases found
  · cases found

theorem entryAt?_append (found : entryAt? entries left = some (.directory inner)) :
    entryAt? entries (left ++ right) = entryAt? inner right := by
  induction left generalizing entries with
  | nil =>
    obtain rfl : entries = inner := by simpa [entryAt?] using found
    rfl
  | cons name rest ih =>
    rcases entryAt?_cons found with ⟨next, first, further⟩ | ⟨rfl, first⟩
    · rw [List.cons_append, entryAt?, first]
      exact ih further
    · rw [List.cons_append, entryAt?, first]
      rfl

theorem exists_directory (found : entryAt? entries (left ++ name :: right) = some entry) :
    ∃ inner, entryAt? entries left = some (.directory inner) := by
  induction left generalizing entries with
  | nil => exact ⟨entries, rfl⟩
  | cons first rest ih =>
    rcases entryAt?_cons found with ⟨next, here, further⟩ | ⟨ended, -⟩
    · rw [entryAt?, here]
      exact ih further
    · exact absurd ended (by simp)

/-- Everything in a plain tree is plain, and properly named. -/
theorem Plain.of_entryAt? (plain : Plain entries) (found : entryAt? entries place = some entry) :
    entry.Plain ∧ ∀ name ∈ place, IsName name := by
  induction place generalizing entries with
  | nil =>
    obtain rfl : .directory entries = entry := by simpa [entryAt?] using found
    exact ⟨plain, by simp⟩
  | cons name rest ih =>
    rcases entryAt?_cons found with ⟨inner, first, further⟩ | ⟨rfl, first⟩
    · obtain ⟨named, sound⟩ := plain.of_found first
      obtain ⟨last, others⟩ := ih sound further
      exact ⟨last, List.forall_mem_cons.mpr ⟨named, others⟩⟩
    · obtain ⟨named, sound⟩ := plain.of_found first
      exact ⟨sound, by simpa using named⟩

end Entries

section Following

/-- What a path reaches is what there is at the place that it names. -/
theorem reach_eq_ok : tree.reach path = .ok (place, entry) ↔
    (∃ start, tree.origin path = .ok start) ∧ tree.Names path place ∧
      entryAt? tree.root place = some entry := by
  have start_eq {start : Location} (begins : tree.origin path = .ok start) :
      start = if isAbsolute path then [] else tree.current := by
    rw [FileTree.origin] at begins
    split at begins
    · cases begins
    · split at begins
      · cases begins
      · split at begins
        · cases begins
        · exact (Except.ok.inj begins).symm
  constructor
  · intro reached
    obtain ⟨last, led, here⟩ := bind_eq_ok.mp reached
    obtain ⟨start, begins, goes⟩ := bind_eq_ok.mp led
    rw [start_eq begins] at goes
    split at here
    · rename_i found
      obtain ⟨rfl, rfl⟩ := Prod.mk.inj (Except.ok.inj here)
      exact ⟨⟨start, begins⟩, goes, found⟩
    · cases here
  · rintro ⟨⟨start, begins⟩, named, found⟩
    refine bind_eq_ok.mpr ⟨place, bind_eq_ok.mpr ⟨start, begins, ?_⟩, by rw [found]; rfl⟩
    rw [start_eq begins]
    exact named

theorem leads_iff : tree.leads path = true ↔ ∃ place entry, tree.reach path = .ok (place, entry) := by
  rw [FileTree.leads]
  cases tree.reach path with
  | error fault => exact iff_of_false nofun nofun
  | ok found => exact iff_of_true rfl ⟨found.1, found.2, rfl⟩

theorem FileTree.Names.unique {other : Location} (first : tree.Names path place)
    (second : tree.Names path other) : place = other :=
  Except.ok.inj (first.symm.trans second)

/-- Without links every part is one step. -/
theorem Plain.follow_eq (plain : Plain tree.root) (links : Nat) (place : Location) (path : List Text) :
    tree.follow links place path = path.foldlM tree.enter place := by
  induction path generalizing place with
  | nil =>
    rw [FileTree.follow]
    rfl
  | cons part rest ih =>
    rw [FileTree.follow, List.foldlM_cons, FileTree.enter]
    cases here : entryAt? tree.root place with
    | none => rfl
    | some reached =>
      cases reached with
      | file => rfl
      | link => rfl
      | directory entries =>
        dsimp only
        split
        · exact ih place
        · split
          · exact ih place.dropLast
          · split
            · rfl
            · cases found : entry? entries part with
              | none => rfl
              | some entry =>
                have held : Plain entries := (plain.of_entryAt? here).1
                cases entry with
                | link target => exact absurd (held.of_found found).2 id
                | file | directory => exact ih (place ++ [part])

theorem Plain.names_iff (plain : Plain tree.root) : tree.Names path place ↔
    (parts path).foldlM tree.enter (if isAbsolute path then [] else tree.current) = .ok place := by
  rw [FileTree.Names, plain.follow_eq]

theorem enter_eq_ok {next : Location} (goes : tree.enter place part = .ok next) :
    next = (component? false part).elim place (Component.enter place) := by
  rw [FileTree.enter] at goes
  split at goes
  · rw [component?]
    by_cases empty : part = []
    · rw [if_pos (by simp [empty])] at goes
      rw [if_pos empty]
      exact (Except.ok.inj goes).symm
    by_cases dot : part = ['.']
    · rw [if_pos (by simp [dot])] at goes
      rw [if_neg empty, if_pos dot]
      exact (Except.ok.inj goes).symm
    rw [if_neg (by simp [empty, dot])] at goes
    rw [if_neg empty, if_neg dot]
    split at goes
    · rename_i dots
      rw [if_pos dots]
      exact (Except.ok.inj goes).symm
    · rename_i other
      rw [if_neg other]
      split at goes
      · cases goes
      · split at goes
        · cases goes
        · exact (Except.ok.inj goes).symm
  · cases goes

theorem foldlM_enter {path : List Text} {last : Location}
    (goes : path.foldlM tree.enter place = .ok last) :
    last = (path.filterMap (component? false)).foldl Component.enter place := by
  induction path generalizing place with
  | nil => exact (Except.ok.inj goes).symm
  | cons part rest ih =>
    rw [List.foldlM_cons] at goes
    cases first : tree.enter place part with
    | error fault =>
      rw [first] at goes
      cases goes
    | ok next =>
      rw [first] at goes
      rw [ih goes, enter_eq_ok first]
      cases found : component? false part <;> simp [found]

/-- A dot at the start and the root lead where a path begins. -/
theorem foldl_components (path : Text) (place : Location) :
    (components path).foldl Component.enter place =
      ((parts path).filterMap (component? false)).foldl Component.enter
        (if isAbsolute path then [] else place) := by
  cases absolute : isAbsolute path with
  | true =>
    obtain ⟨rest, rfl⟩ := List.head?_eq_some_iff.mp (beq_iff_eq.mp absolute)
    have first : parts ('/' :: rest) = [] :: parts rest := by rw [parts, splitOn, if_pos rfl]; rfl
    rw [components, first]
    simp [absolute, component?, Component.enter]
  | false =>
    have dot (first : Text) (place : Location) :
        (component? true first).toList.foldl Component.enter place =
          (component? false first).toList.foldl Component.enter place := by
      unfold component?
      split_ifs <;> rfl
    rw [components]
    cases parts path with
    | nil => rfl
    | cons first rest =>
      simp only [absolute, Bool.false_eq_true, ↓reduceIte, List.foldl_append, dot]
      cases found : component? false first <;> simp [found]

/-- The components of a path tell what it names. -/
theorem Plain.names (plain : Plain tree.root) (named : tree.Names path place) :
    place = (components path).foldl Component.enter tree.current := by
  rw [foldl_components, ← foldlM_enter (plain.names_iff.mp named)]

/-- Spellings of one path name the same place, if they name one. -/
theorem Plain.names_congr {one other : Text} {next : Location} (plain : Plain tree.root)
    (same : components one = components other) (first : tree.Names one place)
    (second : tree.Names other next) : place = next := by
  rw [plain.names first, plain.names second, same]

end Following

end SeedCoverage.Files

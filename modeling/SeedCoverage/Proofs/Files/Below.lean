import SeedCoverage.Files.Walk
import SeedCoverage.Proofs.Files.Spelling

/-! What lies below a directory, links followed. A walk that ends without a fault has found exactly the files
below where it began, each by the names that lead to it. -/
namespace SeedCoverage.Files

open Text

/-- Where a link at a place leads. -/
def FileTree.target (tree : FileTree) (place : Location) (target : Text) : Except AccessFault Location :=
  tree.follow (FileTree.linkLimit - 1) (if isAbsolute target then [] else place.dropLast) (parts target)

/-- An entry at a place, to which a path has led, is a file of that path, or holds it under some name, or is
a link to an entry that does. -/
inductive Holds (tree : FileTree) : Location → Text → Entry → Text → Prop where
  | file {place : Location} {path : Text} {content : List UInt8} : Holds tree place path (.file content) path
  | inside {place : Location} {path name file : Text} {entries : Entries} {entry : Entry}
      (member : (name, entry) ∈ entries)
      (holds : Holds tree (place ++ [name]) (join path name) entry file) :
      Holds tree place path (.directory entries) file
  | linked {place real : Location} {path target file : Text} {entry : Entry}
      (goes : tree.target place target = .ok real) (there : entryAt? tree.root real = some entry)
      (holds : Holds tree real path entry file) : Holds tree place path (.link target) file

variable {tree : FileTree} {links : Nat} {trail : Trail} {place real : Location} {path target file : Text}
  {entries : Entries} {entry : Entry} {found : List Text}

theorem holds_file {content : List UInt8} : Holds tree place path (.file content) file ↔ file = path := by
  constructor
  · intro holds
    cases holds
    rfl
  · rintro rfl
    exact .file

theorem holds_directory : Holds tree place path (.directory entries) file ↔
    ∃ name entry, (name, entry) ∈ entries ∧ Holds tree (place ++ [name]) (join path name) entry file := by
  constructor
  · intro holds
    cases holds with
    | inside member holds => exact ⟨_, _, member, holds⟩
  · rintro ⟨name, entry, member, holds⟩
    exact .inside member holds

theorem holds_link (goes : tree.target place target = .ok real)
    (there : entryAt? tree.root real = some entry) :
    Holds tree place path (.link target) file ↔ Holds tree real path entry file := by
  constructor
  · intro holds
    cases holds with
    | linked goes' there' holds =>
      obtain rfl := Except.ok.inj (goes.symm.trans goes')
      obtain rfl := Option.some.inj (there.symm.trans there')
      exact holds
  · exact .linked goes there

/-- A walk goes on where a link leads to a directory, and else the link leads to a file. -/
theorem walkEntry_link (walked : walkEntry tree links trail place path (.link target) = .ok found) :
    ∃ real, tree.target place target = .ok real ∧
      ((∃ entries less, entryAt? tree.root real = some (.directory entries) ∧ links = less + 1 ∧
          walkEntries tree less ((real, path) :: trail) real path entries = .ok found) ∨
        ∃ content, entryAt? tree.root real = some (.file content) ∧ found = [path]) := by
  rw [walkEntry] at walked
  split at walked
  · cases walked
  · rename_i real goes
    refine ⟨real, goes, ?_⟩
    have solid := solid_of_follow (splitOn_ne_nil '/' target) goes
    split at walked
    · rename_i entries less there
      split at walked
      · cases walked
      · exact .inl ⟨entries, less, there, rfl, walked⟩
    · cases walked
    · rename_i budget _ _ entry there more none_left
      cases entry with
      | file content => exact .inr ⟨content, there, (Except.ok.inj walked).symm⟩
      | link further => exact absurd there (solid further)
      | directory entries =>
        cases budget with
        | zero => exact (none_left entries rfl rfl).elim
        | succ less => exact (more entries less rfl rfl).elim
    · cases walked

mutual
theorem mem_walkEntry (tree : FileTree) (links : Nat) (trail : Trail) (place : Location)
    (path : Text) :
    ∀ (entry : Entry) {found : List Text}, walkEntry tree links trail place path entry = .ok found →
      ∀ file, file ∈ found ↔ Holds tree place path entry file
  | .file content, found, walked, file => by
    rw [walkEntry] at walked
    cases walked
    rw [holds_file, List.mem_singleton]
  | .directory entries, found, walked, file => by
    rw [walkEntry] at walked
    rw [holds_directory]
    exact mem_walkEntries tree links _ place path entries walked file
  | .link target, found, walked, file => by
    obtain ⟨real, goes, ⟨entries, less, there, rfl, onward⟩ | ⟨content, there, rfl⟩⟩ :=
      walkEntry_link walked
    · rw [holds_link goes there, holds_directory]
      exact mem_walkEntries tree less _ real path entries onward file
    · rw [holds_link goes there, holds_file, List.mem_singleton]
termination_by entry => (links, sizeOf entry)

theorem mem_walkEntries (tree : FileTree) (links : Nat) (trail : Trail) (place : Location)
    (path : Text) :
    ∀ (entries : Entries) {found : List Text},
      walkEntries tree links trail place path entries = .ok found → ∀ file, file ∈ found ↔
        ∃ name entry, (name, entry) ∈ entries ∧ Holds tree (place ++ [name]) (join path name) entry file
  | [], found, walked, file => by
    rw [walkEntries] at walked
    cases walked
    simp
  | (name, entry) :: rest, found, walked, file => by
    rw [walkEntries] at walked
    obtain ⟨first, here, walked⟩ := bind_eq_ok.mp walked
    obtain ⟨others, there, walked⟩ := bind_eq_ok.mp walked
    cases walked
    rw [List.mem_append, mem_walkEntry tree links trail _ _ entry here,
      mem_walkEntries tree links trail place path rest there]
    constructor
    · rintro (holds | ⟨other, held, member, holds⟩)
      · exact ⟨name, entry, List.mem_cons_self, holds⟩
      · exact ⟨other, held, List.mem_cons_of_mem _ member, holds⟩
    · rintro ⟨other, held, member, holds⟩
      rcases List.mem_cons.mp member with same | later
      · obtain ⟨rfl, rfl⟩ := Prod.mk.inj same
        exact .inl holds
      · exact .inr ⟨other, held, later, holds⟩
termination_by entries => (links, sizeOf entries)
end

/-- The files below a directory are what a walk finds that ends without a fault. -/
theorem mem_filesBelow {found : List Text} (walked : tree.filesBelow path place entries = .ok found) :
    file ∈ found ↔ Holds tree place path (.directory entries) file :=
  (mem_walkEntries tree _ _ place path entries walked file).trans holds_directory.symm

/-- What an entry holds is spelled as the path to it is. -/
theorem Holds.congr {other : Text} (holds : Holds tree place path entry file)
    (same : components path = components other) :
    ∃ next, Holds tree place other entry next ∧ components file = components next := by
  induction holds generalizing other with
  | file => exact ⟨other, .file, same⟩
  | @inside place path name file entries entry member _ ih =>
    obtain ⟨next, holds, spelled⟩ := ih (components_join_congr same name)
    exact ⟨next, .inside member holds, spelled⟩
  | linked goes there _ ih =>
    obtain ⟨next, holds, spelled⟩ := ih same
    exact ⟨next, .linked goes there holds, spelled⟩

end SeedCoverage.Files

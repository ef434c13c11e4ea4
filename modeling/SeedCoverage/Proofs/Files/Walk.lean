import SeedCoverage.Files.Walk
import SeedCoverage.Proofs.Files.Join

/-! What a walk through plain entries finds: every file below them, by its names behind the path that the
walk began at. -/
namespace SeedCoverage.Files

mutual
/-- The locations of the files that an entry is or holds, from the entry on. -/
def Entry.files : Entry → List Location
  | .file _ => [[]]
  | .directory entries => filesIn entries
  | .link _ => []

/-- The locations of the files among entries and below them. -/
def filesIn : List (Text × Entry) → List Location
  | [] => []
  | (name, entry) :: rest => entry.files.map (name :: ·) ++ filesIn rest
end

variable {tree : FileTree} {entries : Entries} {entry : Entry} {place below : Location} {path : Text}

mutual
theorem walkEntry_eq (tree : FileTree) (links : Nat) (trail : Trail) (place : Location) (path : Text) :
    ∀ entry : Entry, entry.Plain →
      walkEntry tree links trail place path entry = .ok (entry.files.map (joinAll path))
  | .file _, _ => by
    rw [walkEntry, Entry.files]
    rfl
  | .directory entries, plain => by
    rw [walkEntry, Entry.files]
    exact walkEntries_eq tree links _ place path entries plain
  | .link _, plain => plain.elim

/-- The files below plain entries are all that a walk finds, and it finds them without a fault. -/
theorem walkEntries_eq (tree : FileTree) (links : Nat) (trail : Trail) (place : Location) (path : Text) :
    ∀ entries : List (Text × Entry), Plain entries →
      walkEntries tree links trail place path entries = .ok ((filesIn entries).map (joinAll path))
  | [], _ => by
    rw [walkEntries, filesIn]
    rfl
  | (name, entry) :: rest, plain => by
    rw [walkEntries, walkEntry_eq tree links trail _ _ entry plain.2.2.1,
      walkEntries_eq tree links trail place path rest plain.2.2.2, filesIn, List.map_append, List.map_map]
    rfl
end

theorem cons_mem_filesIn {name : Text} :
    name :: below ∈ filesIn entries ↔ ∃ entry, (name, entry) ∈ entries ∧ below ∈ entry.files := by
  induction entries with
  | nil => simp [filesIn]
  | cons first rest ih =>
    obtain ⟨other, held⟩ := first
    rw [filesIn, List.mem_append, ih, List.mem_map]
    constructor
    · rintro (⟨_, member, ⟨⟩⟩ | ⟨entry, present, member⟩)
      · exact ⟨held, List.mem_cons_self, member⟩
      · exact ⟨entry, List.mem_cons_of_mem _ present, member⟩
    · rintro ⟨entry, present, member⟩
      rcases List.mem_cons.mp present with same | later
      · obtain ⟨rfl, rfl⟩ := Prod.mk.inj same
        exact .inl ⟨below, member, rfl⟩
      · exact .inr ⟨entry, later, member⟩

theorem nil_notMem_filesIn (entries : Entries) : [] ∉ filesIn entries := by
  induction entries with
  | nil => simp [filesIn]
  | cons first rest ih => simp [filesIn, ih]

theorem Plain.mem_filesIn (plain : Plain entries) :
    below ∈ filesIn entries ↔ ∃ content, entryAt? entries below = some (.file content) := by
  induction below generalizing entries with
  | nil => simp [nil_notMem_filesIn, entryAt?]
  | cons name rest ih =>
    rw [cons_mem_filesIn]
    simp only [← plain.entry_eq_some]
    rw [entryAt?]
    cases found : entry? entries name with
    | none => simp
    | some entry =>
      cases entry with
      | file content => simp [Entry.files]
      | link target => exact absurd (plain.of_found found).2 id
      | directory inner =>
        have held : Plain inner := (plain.of_found found).2
        simp [Entry.files, ih held]

end SeedCoverage.Files

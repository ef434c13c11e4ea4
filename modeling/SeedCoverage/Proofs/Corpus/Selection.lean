import Mathlib
import SeedCoverage.Proofs.Corpus.Discovery
import SeedCoverage.Proofs.Files.Below

/-! Which files are selected. It is settled by what paths are given: their order, their repeats and the way
they are spelled count for nothing. -/
namespace SeedCoverage.Corpus

open Text Files

variable {tree : FileTree} {extensions paths first second files others : List Text} {path other file : Text}

/-- A path leads to a file, or to a directory that can be walked without a fault. -/
def Walks (tree : FileTree) (path : Text) : Prop :=
  tree.isFile path = true ∨
    ∃ place entries found, tree.directory? path = some (place, entries) ∧
      tree.filesBelow path place entries = .ok found

/-- A path stands for itself if it leads to a file, and for the files below it that have one of the
extensions, ASCII letter case aside, if it leads to a directory. -/
def Offers (tree : FileTree) (extensions : List Text) (path file : Text) : Prop :=
  (tree.isFile path = true ∧ file = path) ∨
    ∃ place entries, tree.directory? path = some (place, entries) ∧
      Holds tree place path (.directory entries) file ∧
      ∃ found, extension? file = some found ∧ ∃ extension ∈ extensions, same found extension = true

/-- The same paths, in whatever order, number and spelling. -/
def SamePaths (first second : List Text) : Prop :=
  ∀ way, way ∈ first.map components ↔ way ∈ second.map components

/-- Files in order, each once, which are exactly those that the paths stand for. -/
structure Selects (tree : FileTree) (extensions paths files : List Text) : Prop where
  ascending : Ascending files
  members : ∀ way, way ∈ files.map components ↔
    ∃ path ∈ paths, ∃ file, Offers tree extensions path file ∧ components file = way

theorem isFile_iff : tree.isFile path = true ↔
    ∃ place content, tree.reach path = .ok (place, .file content) := by
  rw [FileTree.isFile]
  cases tree.reach path with
  | error fault => simp
  | ok reached =>
    obtain ⟨place, entry⟩ := reached
    cases entry <;> simp

theorem directory?_eq_some {place : Location} {entries : Entries} :
    tree.directory? path = some (place, entries) ↔ tree.reach path = .ok (place, .directory entries) := by
  rw [FileTree.directory?]
  cases tree.reach path with
  | error fault => simp
  | ok reached =>
    obtain ⟨place, entry⟩ := reached
    cases entry <;> simp

theorem hasExtension_iff : hasExtension extensions file = true ↔
    ∃ found, extension? file = some found ∧ ∃ extension ∈ extensions, same found extension = true := by
  simp only [hasExtension, Option.any_eq_true, List.any_eq_true]

theorem Walks.filesOf (walks : Walks tree path) (extensions : List Text) :
    ∃ found, filesOf tree extensions path = .ok found ∧
      ∀ file, file ∈ found ↔ Offers tree extensions path file := by
  by_cases single : tree.isFile path = true
  · refine ⟨[path], by rw [Corpus.filesOf, if_pos single], fun file => ?_⟩
    obtain ⟨place, content, reached⟩ := isFile_iff.mp single
    have alone : tree.directory? path = none := by rw [FileTree.directory?, reached]
    simp [Offers, single, alone]
  · obtain ⟨place, entries, found, here, walked⟩ := walks.resolve_left single
    refine ⟨found.filter (hasExtension extensions), ?_, fun file => ?_⟩
    · rw [Corpus.filesOf, if_neg single, here]
      simp only [walked]
    · rw [List.mem_filter, mem_filesBelow walked, hasExtension_iff, Offers, here]
      simp [single]

theorem Walks.lists_iff (walks : Walks tree path) :
    Lists tree extensions path file ↔ Offers tree extensions path file := by
  obtain ⟨found, here, each⟩ := walks.filesOf extensions
  rw [← each, Lists, here]
  simp

/-- Where a path stands for a file, so does any spelling of it that leads somewhere. -/
theorem Offers.congr (offers : Offers tree extensions path file)
    (spelled : components path = components other) (walks : Walks tree other) :
    ∃ next, Offers tree extensions other next ∧ components file = components next := by
  rcases offers with ⟨single, rfl⟩ | ⟨place, entries, here, holds, found, extended, known⟩
  · obtain ⟨place, content, reached⟩ := isFile_iff.mp single
    rcases walks with single' | ⟨place', entries, _, there, -⟩
    · exact ⟨other, .inl ⟨single', rfl⟩, spelled⟩
    · cases (reach_congr spelled reached (directory?_eq_some.mp there)).2
  · have reached := directory?_eq_some.mp here
    rcases walks with single | ⟨place', entries', _, there, -⟩
    · obtain ⟨place', content, reached'⟩ := isFile_iff.mp single
      cases (reach_congr spelled reached reached').2
    · obtain ⟨rfl, same⟩ := reach_congr spelled reached (directory?_eq_some.mp there)
      obtain rfl := Entry.directory.inj same
      obtain ⟨next, holds', spelled'⟩ := holds.congr spelled
      rw [extension?_congr spelled'] at extended
      exact ⟨next, .inr ⟨place, entries, there, holds', found, extended, known⟩, spelled'⟩

/-- Paths that walk are all there is to go wrong, and what they stand for is selected. -/
theorem exists_selects (walks : ∀ path ∈ paths, Walks tree path) (extensions : List Text) :
    ∃ files, discover tree extensions paths = .ok files ∧ Selects tree extensions paths files := by
  have each : ∀ path ∈ paths, ∃ found, filesOf tree extensions path = .ok found := by
    intro path member
    obtain ⟨found, here, -⟩ := (walks path member).filesOf extensions
    exact ⟨found, here⟩
  obtain ⟨files, goes, found⟩ := exists_discovered each
  refine ⟨files, goes, found.ascending, fun way => ?_⟩
  rw [List.mem_map]
  constructor
  · rintro ⟨file, member, spelled⟩
    obtain ⟨path, present, listed⟩ := found.listed file member
    exact ⟨path, present, file, (walks path present).lists_iff.mp listed, spelled⟩
  · rintro ⟨path, present, file, offers, spelled⟩
    have listed := (walks path present).lists_iff.mpr offers
    obtain ⟨kept, member, same⟩ := found.kept path present file listed
    exact ⟨kept, member, (samePath_iff.mp same).symm.trans spelled⟩

theorem Ascending.components_eq (ascending : Ascending files) (ascending' : Ascending others)
    (same : SamePaths files others) : files.map components = others.map components := by
  have sorted {files : List Text} (ascending : Ascending files) :
      (files.map components).Pairwise fun one other =>
        lexLe Component.compare one other = true ∧ one ≠ other :=
    List.pairwise_map.mpr (ascending.imp fun {one other} strictly =>
      ⟨strictly.1, fun equal => Bool.eq_false_iff.mp strictly.2 (samePath_iff.mpr equal)⟩)
  have once {files : List Text} (ascending : Ascending files) : (files.map components).Nodup :=
    (sorted ascending).imp fun strictly => strictly.2
  refine List.Perm.eq_of_pairwise ?_ (sorted ascending) (sorted ascending')
    ((List.perm_ext_iff_of_nodup (once ascending) (once ascending')).mpr same)
  rintro _ _ oneIn otherIn ⟨before, -⟩ ⟨behind, -⟩
  obtain ⟨one, -, rfl⟩ := List.mem_map.mp oneIn
  obtain ⟨other, -, rfl⟩ := List.mem_map.mp otherIn
  exact samePath_iff.mp (pathLe_antisymm before behind)

theorem Selects.subset (selects : Selects tree extensions first files)
    (selects' : Selects tree extensions second others) (walks : ∀ path ∈ second, Walks tree path)
    (same : ∀ way ∈ first.map components, way ∈ second.map components) :
    ∀ way ∈ files.map components, way ∈ others.map components := by
  intro way member
  obtain ⟨path, present, file, offers, spelled⟩ := (selects.members way).mp member
  obtain ⟨other, also, equal⟩ := List.mem_map.mp (same _ (List.mem_map_of_mem present))
  obtain ⟨next, offers', spelled'⟩ := offers.congr equal.symm (walks other also)
  exact (selects'.members way).mpr ⟨other, also, next, offers', spelled'.symm.trans spelled⟩

/-- Discovery hangs on the set of paths that are given. Where all of them lead to something that can be
walked, it succeeds for either of two lists of the same paths, and finds the same files in the same order,
which are those that the paths stand for, each once. -/
theorem discover_samePaths (walks : ∀ path ∈ first, Walks tree path)
    (walks' : ∀ path ∈ second, Walks tree path) (same : SamePaths first second) (extensions : List Text) :
    ∃ files others, discover tree extensions first = .ok files ∧
      discover tree extensions second = .ok others ∧
      files.map components = others.map components ∧
      Selects tree extensions first files ∧ Selects tree extensions second others := by
  obtain ⟨files, goes, selects⟩ := exists_selects walks extensions
  obtain ⟨others, goes', selects'⟩ := exists_selects walks' extensions
  refine ⟨files, others, goes, goes', ?_, selects, selects'⟩
  refine selects.ascending.components_eq selects'.ascending fun way => ⟨?_, ?_⟩
  · exact selects.subset selects' walks' (fun way => (same way).mp) way
  · exact selects'.subset selects walks (fun way => (same way).mpr) way

/-- What is in a directory that holds a link to another one. -/
def seedEntries : Entries :=
  [("items.SQL", .file []), ("notes.txt", .file []), ("more", .link "../extra")]

def extraEntries : Entries := [("quests.sql", .file [])]

def linkedTree : FileTree where
  root := [("seeds", .directory seedEntries), ("extra", .directory extraEntries), ("readme", .file [])]

theorem linkedTree_walks :
    Walks linkedTree "readme" ∧ Walks linkedTree "seeds" ∧ Walks linkedTree "seeds/" ∧
      Walks linkedTree "seeds/more" ∧ Walks linkedTree "seeds//more" := by
  have walks {path : Text} (place : Location) (entries : Entries) (found : List Text)
      (here : linkedTree.directory? path = some (place, entries))
      (walked : linkedTree.filesBelow path place entries = .ok found) : Walks linkedTree path :=
    .inr ⟨place, entries, found, here, walked⟩
  refine ⟨.inl (by cbv), ?_, ?_, ?_, ?_⟩
  · exact walks ["seeds"] seedEntries
      ["seeds/items.SQL", "seeds/notes.txt", "seeds/more/quests.sql"] (by cbv) (by cbv)
  · exact walks ["seeds"] seedEntries
      ["seeds/items.SQL", "seeds/notes.txt", "seeds/more/quests.sql"] (by cbv) (by cbv)
  · exact walks ["extra"] extraEntries ["seeds/more/quests.sql"] (by cbv) (by cbv)
  · exact walks ["extra"] extraEntries ["seeds//more/quests.sql"] (by cbv) (by cbv)

/-- A directory, a link in it and a file, given in another order, in other spellings and again. -/
theorem discover_linkedTree :
    let first : List Text := ["seeds", "readme", "seeds/more"]
    let second : List Text := ["readme", "seeds//more", "seeds/", "readme"]
    (∀ path ∈ first, Walks linkedTree path) ∧ (∀ path ∈ second, Walks linkedTree path) ∧
      SamePaths first second ∧
      ∃ files others, discover linkedTree ["sql"] first = .ok files ∧
        discover linkedTree ["sql"] second = .ok others ∧
        files.map components = others.map components ∧
        Selects linkedTree ["sql"] first files ∧ Selects linkedTree ["sql"] second others := by
  intro first second
  obtain ⟨readme, seeds, slashed, more, doubled⟩ := linkedTree_walks
  have walks : ∀ path ∈ first, Walks linkedTree path := by
    simpa [first] using ⟨seeds, readme, more⟩
  have walks' : ∀ path ∈ second, Walks linkedTree path := by
    simpa [second] using ⟨readme, doubled, slashed, readme⟩
  have same : SamePaths first second := by
    intro way
    have one : first.map components =
        [[.name "seeds"], [.name "readme"], [.name "seeds", .name "more"]] := rfl
    have other : second.map components =
        [[.name "readme"], [.name "seeds", .name "more"], [.name "seeds"], [.name "readme"]] := rfl
    rw [one, other]
    simp only [List.mem_cons, List.not_mem_nil, or_false]
    tauto
  exact ⟨walks, walks', same, discover_samePaths walks walks' same ["sql"]⟩

end SeedCoverage.Corpus

import SeedCoverage.Corpus.Discovery
import SeedCoverage.Proofs.Files.Order
import SeedCoverage.Proofs.Result

/-! What a corpus consists of. The files that its paths stand for are sorted, so that spellings of one
path are neighbours, of which the first is kept: every path is listed, and once. -/
namespace SeedCoverage.Corpus

open Text Files

variable {tree : FileTree} {extensions paths files : List Text} {path file : Text}

/-- A path stands for a file under that spelling. -/
def Lists (tree : FileTree) (extensions : List Text) (path file : Text) : Prop :=
  ∃ found, filesOf tree extensions path = .ok found ∧ file ∈ found

/-- Paths in order, no two of which are the same. -/
def Ascending (files : List Text) : Prop :=
  files.Pairwise fun one other => pathLe one other = true ∧ samePath one other = false

theorem dropRepeats_sublist (files : List Text) : (dropRepeats files).Sublist files := by
  induction files with
  | nil => exact .slnil
  | cons path rest ih =>
    exact .cons_cons path ((List.dropWhile_sublist _).trans ih)

/-- What goes is another spelling of what stays. -/
theorem exists_dropRepeats (member : file ∈ files) :
    ∃ kept ∈ dropRepeats files, samePath file kept = true := by
  induction files with
  | nil => cases member
  | cons path rest ih =>
    rw [dropRepeats]
    rcases List.mem_cons.mp member with rfl | later
    · exact ⟨file, List.mem_cons_self, samePath_iff.mpr rfl⟩
    · obtain ⟨kept, present, equal⟩ := ih later
      rw [← List.takeWhile_append_dropWhile (p := samePath path) (l := dropRepeats rest)] at present
      rcases List.mem_append.mp present with gone | stays
      · have first : samePath path kept = true := List.all_eq_true.mp List.all_takeWhile kept gone
        refine ⟨path, List.mem_cons_self, samePath_iff.mpr ?_⟩
        exact (samePath_iff.mp equal).trans (samePath_iff.mp first).symm
      · exact ⟨kept, List.mem_cons_of_mem _ stays, equal⟩

/-- Of sorted paths no two spellings of one path are kept. -/
theorem dropRepeats_ascending (sorted : files.Pairwise fun one other => pathLe one other = true) :
    Ascending (dropRepeats files) := by
  induction files with
  | nil => exact .nil
  | cons path rest ih =>
    obtain ⟨first, sorted⟩ := List.pairwise_cons.mp sorted
    have ascending : Ascending ((dropRepeats rest).dropWhile (samePath path)) :=
      (ih sorted).sublist (List.dropWhile_sublist _)
    have behind {other : Text} (member : other ∈ (dropRepeats rest).dropWhile (samePath path)) :
        pathLe path other = true :=
      first other ((dropRepeats_sublist rest).subset ((List.dropWhile_sublist _).subset member))
    have head := List.head?_dropWhile_not (samePath path) (dropRepeats rest)
    refine .cons (fun other member => ⟨behind member, ?_⟩) ascending
    cases kept : (dropRepeats rest).dropWhile (samePath path) with
    | nil =>
      rw [kept] at member
      cases member
    | cons next later =>
      rw [kept] at member ascending behind head
      rcases List.mem_cons.mp member with rfl | further
      · exact head
      · -- another spelling of the path would not be behind the next one
        obtain ⟨before, different⟩ := (List.pairwise_cons.mp ascending).1 other further
        refine Bool.eq_false_iff.mpr fun equal => Bool.eq_false_iff.mp different ?_
        refine pathLe_antisymm before ?_
        rw [pathLe, ← samePath_iff.mp equal]
        exact behind List.mem_cons_self

theorem mapM_filesOf (each : ∀ path ∈ paths, ∃ found, filesOf tree extensions path = .ok found) :
    ∃ lists, paths.mapM (filesOf tree extensions) = .ok lists ∧
      ∀ file, file ∈ lists.flatten ↔ ∃ path ∈ paths, Lists tree extensions path file := by
  have goes : ∀ path ∈ paths, filesOf tree extensions path =
      .ok ((filesOf tree extensions path).toOption.getD []) := by
    intro path member
    obtain ⟨found, here⟩ := each path member
    rw [here]
    rfl
  refine ⟨_, mapM_ok paths goes, fun file => ?_⟩
  rw [List.mem_flatten]
  constructor
  · rintro ⟨_, present, listed⟩
    obtain ⟨path, member, rfl⟩ := List.mem_map.mp present
    exact ⟨path, member, _, goes path member, listed⟩
  · rintro ⟨path, member, found, here, listed⟩
    exact ⟨_, List.mem_map_of_mem member, by rwa [here]⟩

/-- What is discovered is in order and without repeats. Of each file that a path stands for there is a
spelling in it, and nothing else is. -/
structure Discovered (tree : FileTree) (extensions paths files : List Text) : Prop where
  ascending : Ascending files
  listed : ∀ file ∈ files, ∃ path ∈ paths, Lists tree extensions path file
  kept : ∀ path ∈ paths, ∀ file, Lists tree extensions path file →
    ∃ other ∈ files, samePath file other = true

/-- Where every path stands for something, all that they stand for is discovered. -/
theorem exists_discovered (each : ∀ path ∈ paths, ∃ found, filesOf tree extensions path = .ok found) :
    ∃ files, discover tree extensions paths = .ok files ∧ Discovered tree extensions paths files := by
  obtain ⟨lists, goes, members⟩ := mapM_filesOf each
  have sorted := @List.pairwise_mergeSort _ pathLe (fun _ _ _ => pathLe_trans) pathLe_total lists.flatten
  refine ⟨dropRepeats (lists.flatten.mergeSort pathLe), ?_, dropRepeats_ascending sorted, ?_, ?_⟩
  · rw [discover, goes]
    rfl
  · intro file member
    exact (members file).mp (List.mem_mergeSort.mp ((dropRepeats_sublist _).subset member))
  · intro path present file listed
    exact exists_dropRepeats (List.mem_mergeSort.mpr ((members file).mpr ⟨path, present, listed⟩))

end SeedCoverage.Corpus

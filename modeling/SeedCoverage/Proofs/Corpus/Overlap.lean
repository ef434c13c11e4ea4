import Mathlib.Data.List.Pairwise
import SeedCoverage.Proofs.Corpus.Discovery
import SeedCoverage.Proofs.Files.Walk

/-! Paths that overlap. Repeats are told by their components, and the spelling of a file that is found goes
back to that of the path it was found from: a file is named once if the paths that lead to it agree. -/
namespace SeedCoverage.Corpus

open Text Files

variable {tree : FileTree} {extensions paths files : List Text} {path : Text} {outer inner : Text}

/-- No two paths name the same place. -/
def NamesOnce (tree : FileTree) (files : List Text) : Prop :=
  files.Pairwise fun one other => ∀ place, tree.Names one place → ¬tree.Names other place

/-- Two paths stand for a file in common, under whatever spelling. -/
def Overlap (tree : FileTree) (extensions : List Text) (outer inner : Text) : Prop :=
  ∃ place one other, Lists tree extensions outer one ∧ Lists tree extensions inner other ∧
    tree.Names one place ∧ tree.Names other place

/-- Where one path leads below another, it is written as the other and the names on the way. -/
def Agree (tree : FileTree) (outer inner : Text) : Prop :=
  ∀ place below, tree.Names outer place → tree.Names inner (place ++ below) →
    components inner = components outer ++ below.map .name

theorem NamesOnce.eq {one other : Text} {place : Location} (once : NamesOnce tree files)
    (first : one ∈ files) (second : other ∈ files) (oneNamed : tree.Names one place)
    (otherNamed : tree.Names other place) : one = other := by
  have symmetric : Std.Symm fun one other => ∀ place, tree.Names one place → ¬tree.Names other place :=
    ⟨fun _ _ apart place otherNamed oneNamed => apart place oneNamed otherNamed⟩
  by_contra different
  exact List.Pairwise.forall once first second different place oneNamed otherNamed

theorem filesOf_file {place : Location} {content : List UInt8}
    (reached : tree.reach path = .ok (place, .file content)) :
    filesOf tree extensions path = .ok [path] := by
  simp [filesOf, FileTree.isFile, reached]

theorem filesOf_directory {place : Location} {entries : Entries}
    (reached : tree.reach path = .ok (place, .directory entries)) (plain : Plain entries) :
    filesOf tree extensions path =
      .ok (((filesIn entries).map (joinAll path)).filter (hasExtension extensions)) := by
  have walked : tree.filesBelow path place entries = .ok ((filesIn entries).map (joinAll path)) :=
    walkEntries_eq tree _ _ place path entries plain
  simp [filesOf, FileTree.isFile, FileTree.directory?, reached, walked]

/-- A path to something stands for files at or below it, which are spelled as the path is. -/
theorem filesOf_plain (plain : Plain tree.root) (leads : tree.leads path = true) :
    ∃ place found, tree.Names path place ∧ filesOf tree extensions path = .ok found ∧
      ∀ file ∈ found, ∃ below, tree.Names file (place ++ below) ∧
        components file = components path ++ below.map .name ∧
          ∃ content, entryAt? tree.root (place ++ below) = some (.file content) := by
  obtain ⟨place, entry, reached⟩ := leads_iff.mp leads
  obtain ⟨-, named, here⟩ := reach_eq_ok.mp reached
  have sound := (plain.of_entryAt? here).1
  cases entry with
  | link target => exact absurd sound id
  | file content =>
    refine ⟨place, [path], named, filesOf_file reached, ?_⟩
    intro file member
    obtain rfl := List.mem_singleton.mp member
    exact ⟨[], by simpa using named, by simp, content, by simpa using here⟩
  | directory entries =>
    refine ⟨place, _, named, filesOf_directory reached sound, ?_⟩
    intro file member
    obtain ⟨below, present, rfl⟩ := List.mem_map.mp (List.mem_filter.mp member).1
    obtain ⟨content, inside⟩ := (Plain.mem_filesIn sound).mp present
    have whole : entryAt? tree.root (place ++ below) = some (.file content) := by
      rw [entryAt?_append here, inside]
    exact ⟨below, plain.names_joinAll named whole,
      components_joinAll path (Plain.of_entryAt? sound inside).2, content, whole⟩

theorem Lists.below {file : Text} (listed : Lists tree extensions path file) (plain : Plain tree.root)
    (leads : tree.leads path = true) :
    ∃ place below, tree.Names path place ∧ tree.Names file (place ++ below) ∧
      components file = components path ++ below.map .name ∧
        ∃ content, entryAt? tree.root (place ++ below) = some (.file content) := by
  obtain ⟨place, found, named, goes, each⟩ := @filesOf_plain _ extensions _ plain leads
  obtain ⟨other, here, member⟩ := listed
  obtain rfl := Except.ok.inj (goes.symm.trans here)
  obtain ⟨below, spelled⟩ := each file member
  exact ⟨place, below, named, spelled⟩

/-- Two spellings of a file are one if the paths they begin with agree about the way between them. -/
theorem components_eq_iff {one other : Text} {middle below : Location}
    (first : components one = components outer ++ (middle ++ below).map .name)
    (second : components other = components inner ++ below.map .name) :
    components one = components other ↔
      components inner = components outer ++ middle.map .name := by
  rw [first, second, List.map_append, ← List.append_assoc, List.append_cancel_right_eq]
  exact eq_comm

section Found

variable (found : Discovered tree extensions paths files) (plain : Plain tree.root)
  (lead : ∀ path ∈ paths, tree.leads path = true)

include found plain lead

theorem Discovered.named : ∀ file ∈ files, ∃ place content,
    tree.Names file place ∧ entryAt? tree.root place = some (.file content) := by
  intro file member
  obtain ⟨path, present, listed⟩ := found.listed file member
  obtain ⟨place, below, -, named, -, content, here⟩ := listed.below plain (lead path present)
  exact ⟨place ++ below, content, named, here⟩

/-- The spelling that is kept of a file names it. -/
theorem Discovered.exists_kept {file : Text} {place : Location} (present : path ∈ paths)
    (listed : Lists tree extensions path file) (named : tree.Names file place) :
    ∃ other ∈ files, components file = components other ∧ tree.Names other place := by
  obtain ⟨other, member, equal⟩ := found.kept path present file listed
  obtain ⟨next, _, otherNamed, -⟩ := found.named plain lead other member
  refine ⟨other, member, samePath_iff.mp equal, ?_⟩
  rwa [plain.names_congr (samePath_iff.mp equal) named otherNamed]

/-- If every file is named once, two spellings of it were kept as one, so that their paths agree. -/
theorem Discovered.agree (once : NamesOnce tree files) (outerIn : outer ∈ paths) (innerIn : inner ∈ paths)
    (overlap : Overlap tree extensions outer inner) : Agree tree outer inner := by
  obtain ⟨final, one, other, first, second, oneNamed, otherNamed⟩ := overlap
  intro place middle outerNamed innerNamed
  obtain ⟨_, way, outerAt, oneAt, oneSpelled, -⟩ := first.below plain (lead outer outerIn)
  obtain ⟨_, below, innerAt, otherAt, otherSpelled, -⟩ := second.below plain (lead inner innerIn)
  obtain rfl := outerAt.unique outerNamed
  obtain rfl := innerAt.unique innerNamed
  have whole := (oneAt.unique oneNamed).trans (otherAt.unique otherNamed).symm
  rw [List.append_assoc, List.append_cancel_left_eq] at whole
  obtain rfl := whole
  obtain ⟨left, leftIn, oneLeft, leftNamed⟩ := found.exists_kept plain lead outerIn first oneNamed
  obtain ⟨right, rightIn, otherRight, rightNamed⟩ :=
    found.exists_kept plain lead innerIn second otherNamed
  refine (components_eq_iff oneSpelled otherSpelled).mp ?_
  rw [oneLeft, otherRight, once.eq leftIn rightIn leftNamed rightNamed]

/-- If paths agree, two spellings of a file would be the same path, and only one of those is kept. -/
theorem Discovered.namesOnce (agree : ∀ outer ∈ paths, ∀ inner ∈ paths,
    Overlap tree extensions outer inner → Agree tree outer inner) : NamesOnce tree files := by
  refine found.ascending.imp_of_mem fun {one other} oneIn otherIn strictly final oneNamed otherNamed => ?_
  obtain ⟨outer, outerIn, first⟩ := found.listed one oneIn
  obtain ⟨inner, innerIn, second⟩ := found.listed other otherIn
  obtain ⟨_, _, outerAt, oneAt, oneSpelled, -⟩ := first.below plain (lead outer outerIn)
  obtain ⟨_, _, innerAt, otherAt, otherSpelled, -⟩ := second.below plain (lead inner innerIn)
  have whole := (oneAt.unique oneNamed).trans (otherAt.unique otherNamed).symm
  refine Bool.eq_false_iff.mp strictly.2 (samePath_iff.mpr ?_)
  -- either path may be the one that leads below the other
  rcases List.append_eq_append_iff.mp whole with ⟨middle, rfl, rfl⟩ | ⟨middle, rfl, rfl⟩
  · have agreed := agree outer outerIn inner innerIn
      ⟨final, one, other, first, second, oneNamed, otherNamed⟩ _ middle outerAt innerAt
    exact (components_eq_iff oneSpelled otherSpelled).mpr agreed
  · have agreed := agree inner innerIn outer outerIn
      ⟨final, other, one, second, first, otherNamed, oneNamed⟩ _ middle innerAt outerAt
    exact ((components_eq_iff otherSpelled oneSpelled).mpr agreed).symm

end Found

/-- In a tree without links, paths that lead somewhere name each of their files once exactly if any two of
them that have a file in common agree about the way to it. Of each file one spelling is kept, and nothing
else than files is. -/
theorem discover_names_once_iff (plain : Plain tree.root)
    (lead : ∀ path ∈ paths, tree.leads path = true) :
    ∃ files, discover tree extensions paths = .ok files ∧
      (∀ file ∈ files, ∃ place content,
        tree.Names file place ∧ entryAt? tree.root place = some (.file content)) ∧
      (∀ path ∈ paths, ∀ file, Lists tree extensions path file →
        ∃ kept ∈ files, samePath file kept = true) ∧
      (NamesOnce tree files ↔
        ∀ outer ∈ paths, ∀ inner ∈ paths, Overlap tree extensions outer inner →
          Agree tree outer inner) := by
  have each : ∀ path ∈ paths, ∃ found, filesOf tree extensions path = .ok found := by
    intro path member
    obtain ⟨_, found, -, goes, -⟩ := @filesOf_plain _ extensions _ plain (lead path member)
    exact ⟨found, goes⟩
  obtain ⟨files, goes, found⟩ := exists_discovered each
  refine ⟨files, goes, found.named plain lead, found.kept, ?_, found.namesOnce plain lead⟩
  exact fun once _ outerIn _ innerIn => found.agree plain lead once outerIn innerIn

/-- One file in a directory, below the current one. -/
def seedTree : FileTree where
  root := [("seeds", .directory [("items.sql", .file [])])]

theorem seedTree_plain : Plain seedTree.root := by
  have proper {name : Text} (named : name = "seeds".toList ∨ name = "items.sql".toList) : IsName name := by
    rcases named with rfl | rfl <;> exact ⟨by decide, by decide, by decide, by decide, by decide⟩
  simp [seedTree, Plain, Entry.Plain, proper]

theorem seedTree_reach :
    seedTree.reach "seeds" = .ok (["seeds"], .directory [("items.sql", .file [])]) ∧
    seedTree.reach "./seeds" = .ok (["seeds"], .directory [("items.sql", .file [])]) ∧
      seedTree.reach "seeds/items.sql" = .ok (["seeds", "items.sql"], .file []) := by
  refine ⟨?_, ?_, ?_⟩ <;>
    exact reach_eq_ok.mpr ⟨⟨_, rfl⟩, seedTree_plain.names_iff.mpr rfl, rfl⟩

/-- A directory and a file in it, both from where the program runs. -/
theorem seedTree_named_once :
    Plain seedTree.root ∧
      (∀ path ∈ ["seeds".toList, "seeds/items.sql".toList], seedTree.leads path = true) ∧
        ∃ files, discover seedTree ["sql"] ["seeds", "seeds/items.sql"] = .ok files ∧
          NamesOnce seedTree files := by
  obtain ⟨seeds, -, items⟩ := seedTree_reach
  have lead : ∀ path ∈ ["seeds".toList, "seeds/items.sql".toList], seedTree.leads path = true := by
    intro path member
    rcases List.mem_pair.mp member with rfl | rfl
    · exact leads_iff.mpr ⟨_, _, seeds⟩
    · exact leads_iff.mpr ⟨_, _, items⟩
  obtain ⟨-, seedsNamed, -⟩ := reach_eq_ok.mp seeds
  obtain ⟨-, itemsNamed, -⟩ := reach_eq_ok.mp items
  obtain ⟨files, goes, -, -, once⟩ := @discover_names_once_iff _ ["sql"] _ seedTree_plain lead
  refine ⟨seedTree_plain, lead, files, goes, once.mpr ?_⟩
  intro outer outerIn inner innerIn _ place below outerNamed innerNamed
  rcases List.mem_pair.mp outerIn with rfl | rfl <;> rcases List.mem_pair.mp innerIn with rfl | rfl
  · obtain rfl := outerNamed.unique seedsNamed
    obtain rfl : below = [] := by simpa using innerNamed.unique seedsNamed
    rfl
  · obtain rfl := outerNamed.unique seedsNamed
    obtain rfl : below = ["items.sql".toList] := by simpa using innerNamed.unique itemsNamed
    rfl
  · obtain rfl := outerNamed.unique itemsNamed
    exact absurd (innerNamed.unique seedsNamed) (by simp)
  · obtain rfl := outerNamed.unique itemsNamed
    obtain rfl : below = [] := by simpa using innerNamed.unique itemsNamed
    rfl

private theorem mergeSort_pair {one other : Text} (behind : pathLe one other = false) :
    [one, other].mergeSort pathLe = [other, one] := by
  simp [List.mergeSort, List.MergeSort.Internal.splitInTwo, behind]

/-- A dot before a path makes it another path, and every file of it another file. -/
theorem seedTree_named_twice :
    Plain seedTree.root ∧ (∀ path ∈ ["seeds".toList, "./seeds".toList], seedTree.leads path = true) ∧
      discover seedTree ["sql"] ["seeds", "./seeds"] = .ok ["./seeds/items.sql", "seeds/items.sql"] ∧
        seedTree.Names "./seeds/items.sql" ["seeds", "items.sql"] ∧
          seedTree.Names "seeds/items.sql" ["seeds", "items.sql"] := by
  obtain ⟨seeds, dotted, -⟩ := seedTree_reach
  have held : Plain [("items.sql".toList, Entry.file [])] := seedTree_plain.2.2.1
  refine ⟨seedTree_plain, ?_, ?_, seedTree_plain.names_iff.mpr rfl, seedTree_plain.names_iff.mpr rfl⟩
  · intro path member
    rcases List.mem_pair.mp member with rfl | rfl
    · exact leads_iff.mpr ⟨_, _, seeds⟩
    · exact leads_iff.mpr ⟨_, _, dotted⟩
  · have plainFound : filesOf seedTree ["sql"] "seeds" = .ok ["seeds/items.sql"] :=
      filesOf_directory seeds held
    have dottedFound : filesOf seedTree ["sql"] "./seeds" = .ok ["./seeds/items.sql"] :=
      filesOf_directory dotted held
    rw [discover, List.mapM_cons, List.mapM_cons, plainFound, dottedFound]
    change Except.ok (dropRepeats (List.mergeSort [_, _] pathLe)) = _
    rw [mergeSort_pair (by decide)]
    rfl

end SeedCoverage.Corpus

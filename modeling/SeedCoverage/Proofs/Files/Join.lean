import SeedCoverage.Proofs.Files.Plain
import SeedCoverage.Proofs.Text.Pieces

/-! Names behind a path. A name that is joined to a path is one more component of it, and names what has
that name in the directory that the path names. -/
namespace SeedCoverage.Files

open Text

/-- The steps that parts of a path stand for: all but empty ones and single dots. -/
def steps (path : List Text) : List Component := path.filterMap (component? false)

/-- Names behind a path, each in the directory before it. -/
def joinAll (path : Text) (below : Location) : Text := below.foldl join path

variable {tree : FileTree} {entries : Entries} {entry : Entry} {place next below : Location}
  {path name part front : Text}

theorem IsName.relative (named : IsName name) : isAbsolute name = false := by
  obtain ⟨c, rest, rfl⟩ := List.exists_cons_of_ne_nil named.filled
  have first : '/' ≠ c := fun slash => named.whole (slash ▸ List.mem_cons_self)
  simpa [isAbsolute] using Ne.symm first

theorem IsName.component? (named : IsName name) (first : Bool) :
    Files.component? first name = some (.name name) := by
  rw [Files.component?, if_neg named.filled, if_neg named.notDot, if_neg named.notDots]

/-- A slash is put before a name, unless there is one or nothing to put it behind. -/
theorem join_cases (path : Text) (named : IsName name) :
    path = [] ∧ join path name = name ∨
      (∃ front, path = front ++ ['/'] ∧ join path name = front ++ '/' :: name) ∨
        path ≠ [] ∧ join path name = path ++ '/' :: name := by
  rw [join, if_neg (by simp [named.relative])]
  split
  · rename_i bare
    rcases Bool.or_eq_true_iff.mp bare with empty | slash
    · exact .inl ⟨List.isEmpty_iff.mp empty, by rw [List.isEmpty_iff.mp empty]; rfl⟩
    · obtain ⟨front, rfl⟩ := List.getLast?_eq_some_iff.mp (beq_iff_eq.mp slash)
      exact .inr (.inl ⟨front, rfl, by rw [List.append_assoc]; rfl⟩)
  · rename_i filled
    exact .inr (.inr ⟨fun empty => filled (by simp [empty]), rfl⟩)

theorem parts_append (left right : Text) : parts (left ++ '/' :: right) = parts left ++ parts right :=
  splitOn_append '/' left right

theorem parts_of_notMem (whole : '/' ∉ part) : parts part = [part] := splitOn_of_notMem whole

theorem isAbsolute_append (filled : front ≠ []) (part : Text) :
    isAbsolute (front ++ part) = isAbsolute front := by
  obtain ⟨c, rest, rfl⟩ := List.exists_cons_of_ne_nil filled
  rfl

theorem steps_name (named : IsName name) : steps (parts name) = [.name name] := by
  rw [parts_of_notMem named.whole, steps, List.filterMap_cons_some (named.component? false)]
  rfl

theorem parts_slash (rest : Text) : parts ('/' :: rest) = [] :: parts rest := parts_append [] rest

theorem components_slash (rest : Text) : components ('/' :: rest) = .root :: steps (parts rest) := by
  rw [components, parts_slash]
  rfl

theorem components_append_slash (filled : front ≠ []) (rest : Text) :
    components (front ++ '/' :: rest) = components front ++ steps (parts rest) := by
  rw [components, components, parts_append, isAbsolute_append filled]
  cases split : parts front with
  | nil => exact absurd split (splitOn_ne_nil '/' front)
  | cons first others => simp [steps]

theorem components_join_relative (filled : path ≠ []) (relative : isAbsolute name = false) :
    components (join path name) = components path ++ steps (parts name) := by
  rw [join, if_neg (by simp [relative])]
  split
  · rename_i bare
    have slash : path.getLast? = some '/' := by
      rcases Bool.or_eq_true_iff.mp bare with empty | slash
      · exact absurd (List.isEmpty_iff.mp empty) filled
      · exact beq_iff_eq.mp slash
    obtain ⟨front, rfl⟩ := List.getLast?_eq_some_iff.mp slash
    have ended : front ++ ['/'] ++ name = front ++ '/' :: name := by simp
    rw [ended]
    by_cases root : front = []
    · subst root
      exact components_slash name
    · have nothing : steps (parts []) = [] := rfl
      rw [components_append_slash root, components_append_slash root, nothing, List.append_nil]
  · exact components_append_slash filled name

theorem components_join (path : Text) (named : IsName name) :
    components (join path name) = components path ++ [.name name] := by
  by_cases empty : path = []
  · have bare : join [] name = name := by simp [join]
    have nothing : components [] = [] := rfl
    rw [empty, bare, nothing, components, parts_of_notMem named.whole, named.relative]
    simp [named.component?]
  · rw [components_join_relative empty named.relative, steps_name named]

theorem components_joinAll (path : Text) (named : ∀ name ∈ below, IsName name) :
    components (joinAll path below) = components path ++ below.map .name := by
  induction below generalizing path with
  | nil => simp [joinAll]
  | cons name rest ih =>
    obtain ⟨first, others⟩ := List.forall_mem_cons.mp named
    have joined : joinAll path (name :: rest) = joinAll (join path name) rest := rfl
    rw [joined, ih (join path name) others, components_join path first, List.append_assoc]
    rfl

theorem foldlM_concat {before : List Text} {start : Location} :
    (before ++ [part]).foldlM tree.enter start = .ok next ↔
      ∃ middle, before.foldlM tree.enter start = .ok middle ∧ tree.enter middle part = .ok next := by
  rw [List.foldlM_append]
  cases before.foldlM tree.enter start with
  | error fault => exact iff_of_false nofun nofun
  | ok middle =>
    have single : [part].foldlM tree.enter middle = tree.enter middle part := by simp
    change [part].foldlM tree.enter middle = .ok next ↔ _
    rw [single]
    constructor
    · exact fun goes => ⟨middle, rfl, goes⟩
    · rintro ⟨_, ⟨⟩, goes⟩
      exact goes

/-- One more name is one more step, with or without a slash before it. -/
theorem foldlM_join {start : Location} (named : IsName name)
    (before : (parts path).foldlM tree.enter start = .ok place)
    (last : tree.enter place name = .ok next) :
    (parts (join path name)).foldlM tree.enter start = .ok next := by
  have slashed {front : List Text} (goes : (front ++ [[]]).foldlM tree.enter start = .ok place) :
      (front ++ [name]).foldlM tree.enter start = .ok next := by
    obtain ⟨middle, goes, still⟩ := foldlM_concat.mp goes
    obtain rfl : place = middle := enter_eq_ok still
    exact foldlM_concat.mpr ⟨place, goes, last⟩
  rcases join_cases path named with ⟨rfl, joined⟩ | ⟨front, rfl, joined⟩ | ⟨filled, joined⟩
  · rw [joined, parts_of_notMem named.whole]
    exact @slashed [] before
  · rw [parts_append] at before
    rw [joined, parts_append, parts_of_notMem named.whole]
    exact slashed before
  · rw [joined, parts_append, parts_of_notMem named.whole]
    exact foldlM_concat.mpr ⟨place, before, last⟩

theorem isAbsolute_join (path : Text) (named : IsName name) :
    isAbsolute (join path name) = isAbsolute path := by
  rcases join_cases path named with ⟨rfl, joined⟩ | ⟨front, rfl, joined⟩ | ⟨filled, joined⟩
  · rw [joined, named.relative]
    rfl
  · rw [joined]
    cases front <;> rfl
  · rw [joined, isAbsolute_append filled]

theorem enter_name (directory : entryAt? tree.root place = some (.directory entries))
    (member : entry? entries name = some entry) (named : IsName name) :
    tree.enter place name = .ok (place ++ [name]) := by
  have short : ¬FileTree.nameLimit < byteSize name := Nat.not_lt.mpr named.short
  simp [FileTree.enter, directory, member, named.filled, named.notDot, named.notDots, short]

/-- A path and a name name what has that name in the directory that the path names. -/
theorem Plain.names_join (plain : Plain tree.root) (named : tree.Names path place)
    (directory : entryAt? tree.root place = some (.directory entries))
    (member : entry? entries name = some entry) : tree.Names (join path name) (place ++ [name]) := by
  have held : Plain entries := (plain.of_entryAt? directory).1
  have proper := (held.of_found member).1
  rw [plain.names_iff] at *
  rw [isAbsolute_join path proper]
  exact foldlM_join proper named (enter_name directory member proper)

theorem Plain.names_joinAll (plain : Plain tree.root) (named : tree.Names path place)
    (found : entryAt? tree.root (place ++ below) = some entry) :
    tree.Names (joinAll path below) (place ++ below) := by
  induction below generalizing path place with
  | nil => rwa [List.append_nil]
  | cons name rest ih =>
    obtain ⟨entries, directory⟩ := exists_directory found
    rw [entryAt?_append directory] at found
    obtain ⟨next, member⟩ : ∃ next, entry? entries name = some next := by
      rcases entryAt?_cons found with ⟨inner, first, -⟩ | ⟨-, first⟩
      · exact ⟨_, first⟩
      · exact ⟨_, first⟩
    rw [← entryAt?_append directory] at found
    have joined := @ih (place ++ [name]) (join path name) (plain.names_join named directory member)
    simpa [joinAll] using joined (by simpa using found)

end SeedCoverage.Files

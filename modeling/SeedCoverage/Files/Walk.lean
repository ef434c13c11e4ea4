import SeedCoverage.Files.Tree

/-! Every file below a directory, links followed. A link to a directory that the walk is inside of
is a fault. -/
namespace SeedCoverage.Files

/-- Why a walk stops. -/
inductive WalkFault where
  | access (path : Text) (fault : AccessFault)
  | loop (path ancestor : Text)
  deriving DecidableEq, Repr

def WalkFault.message : WalkFault → Text
  | .access path fault => "IO error for operation on " ++ path ++ ": " ++ fault.message
  | .loop path ancestor =>
    "File system loop found: " ++ path ++ " points to an ancestor " ++ ancestor

/-- The directories that a walk is inside of, the nearest first, with the paths it took to them. -/
abbrev Trail := List (Location × Text)

mutual
/-- The paths of the files that an entry is or holds. Of links to directories, at most `links` may
lie within each other. -/
def walkEntry (tree : FileTree) (links : Nat) (trail : Trail) (place : Location) (path : Text)
    (entry : Entry) : Except WalkFault (List Text) :=
  match entry with
  | .file _ => .ok [path]
  | .directory entries => walkEntries tree links ((place, path) :: trail) place path entries
  | .link target =>
    let start := if isAbsolute target then [] else place.dropLast
    match tree.follow (FileTree.linkLimit - 1) start (parts target) with
    | .error fault => .error (.access path fault)
    | .ok real =>
      match entryAt? tree.root real, links with
      | some (.directory entries), left + 1 =>
        match trail.find? fun ancestor => ancestor.1 == real with
        | some (_, ancestor) => .error (.loop path ancestor)
        | none => walkEntries tree left ((real, path) :: trail) real path entries
      | some (.directory _), 0 => .error (.loop path path)
      | some _, _ => .ok [path]
      | none, _ => .error (.access path .notFound)
termination_by (links, sizeOf entry)

def walkEntries (tree : FileTree) (links : Nat) (trail : Trail) (place : Location) (path : Text)
    (entries : Entries) : Except WalkFault (List Text) :=
  match entries with
  | [] => .ok []
  | (name, entry) :: rest => do
    let found ← walkEntry tree links trail (place ++ [name]) (join path name) entry
    let others ← walkEntries tree links trail place path rest
    return found ++ others
termination_by (links, sizeOf entries)
end

mutual
/-- The number of directories in an entry. -/
def Entry.directories : Entry → Nat
  | .directory entries => entriesDirectories entries + 1
  | _ => 0

def entriesDirectories : List (Text × Entry) → Nat
  | [] => 0
  | (_, entry) :: rest => entry.directories + entriesDirectories rest
end

/-- The files below a directory. No more links lie within each other than there are directories,
since each leads to another one. -/
def FileTree.filesBelow (tree : FileTree) (path : Text) (place : Location) (entries : Entries) :
    Except WalkFault (List Text) :=
  walkEntries tree (entriesDirectories tree.root + 1) [(place, path)] place path entries

end SeedCoverage.Files

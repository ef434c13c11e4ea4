import SeedCoverage.Failure
import SeedCoverage.Files.Walk

/-! The SQL files that paths stand for: files as they are, and of directories the files below them
that have one of the extensions. The files are sorted by their components, and of two spellings of
one path that end up next to each other the first is kept. -/
namespace SeedCoverage.Corpus

open Text Files

/-- Whether the extension of a path is listed, ASCII letter case aside. -/
def hasExtension (extensions : List Text) (path : Text) : Bool :=
  (extension? path).any fun found => extensions.any (same found)

/-- The files that one path stands for. -/
def filesOf (tree : FileTree) (extensions : List Text) (path : Text) :
    Except Failure (List Text) :=
  if tree.isFile path then .ok [path]
  else match tree.directory? path with
    | none => .error (.corpus path "no such file or directory")
    | some (place, entries) =>
      match tree.filesBelow path place entries with
      | .ok files => .ok (files.filter (hasExtension extensions))
      | .error fault => .error (.corpus path fault.message)

/-- Of neighbours that are the same path, the first. -/
def dropRepeats : List Text → List Text
  | [] => []
  | path :: rest => path :: (dropRepeats rest).dropWhile (samePath path)

/-- The files that all the paths stand for, in their order. -/
def discover (tree : FileTree) (extensions paths : List Text) : Except Failure (List Text) := do
  let files ← paths.mapM (filesOf tree extensions)
  return dropRepeats (files.flatten.mergeSort pathLe)

end SeedCoverage.Corpus

import SeedCoverage.Files.Path
import SeedCoverage.Text.Offset
import SeedCoverage.Text.Utf8

/-! A tree of files with a current directory, and what paths mean in it. Links are followed, two
dots mean the directory above the one that was reached. -/
namespace SeedCoverage.Files

open Text

inductive Entry where
  | file (content : List UInt8)
  | directory (entries : List (Text × Entry))
  | link (target : Text)

/-- The entries of a directory, by name. -/
abbrev Entries := List (Text × Entry)

/-- The names from the root down to an entry, with no link on the way. -/
abbrev Location := List Text

/-- Why a path cannot be used. -/
inductive AccessFault where
  | notFound
  | notDirectory
  | isDirectory
  | tooManyLinks
  | nameTooLong
  | nullInPath
  | notText
  deriving DecidableEq, Repr

def AccessFault.message : AccessFault → Text
  | .notFound => "No such file or directory (os error 2)"
  | .notDirectory => "Not a directory (os error 20)"
  | .isDirectory => "Is a directory (os error 21)"
  | .tooManyLinks => "Too many levels of symbolic links (os error 40)"
  | .nameTooLong => "File name too long (os error 36)"
  | .nullInPath => "file name contained an unexpected NUL byte"
  | .notText => "stream did not contain valid UTF-8"

/-- The entry of that name. -/
def entry? (entries : Entries) (name : Text) : Option Entry :=
  (entries.find? fun entry => entry.1 == name).map Prod.snd

/-- The entry at a location. -/
def entryAt? : Entries → Location → Option Entry
  | entries, [] => some (.directory entries)
  | entries, name :: rest =>
    match entry? entries name with
    | some (.directory inner) => entryAt? inner rest
    | some other => if rest.isEmpty then some other else none
    | none => none

/-- The entries with one of that name. -/
def putEntry (entries : Entries) (name : Text) (entry : Entry) : Entries :=
  if entries.any fun other => other.1 == name then
    entries.map fun other => if other.1 == name then (name, entry) else other
  else entries ++ [(name, entry)]

/-- The entries with `entry` at a location; directories on the way come to be. -/
def putAt (entry : Entry) : Location → Entries → Entries
  | [], entries => entries
  | [name], entries => putEntry entries name entry
  | name :: rest, entries =>
    let inner := match entry? entries name with
      | some (.directory inner) => inner
      | _ => []
    putEntry entries name (.directory (putAt entry rest inner))

structure FileTree where
  root : Entries
  current : Location := []

namespace FileTree

/-- How many links one path may lead through. -/
def linkLimit : Nat := 40

def nameLimit : Nat := 255

def pathLimit : Nat := 4095

/-- Where the parts of a path lead from a place; `links` may still be followed. -/
def follow (tree : FileTree) (links : Nat) (place : Location) (path : List Text) :
    Except AccessFault Location :=
  match path with
  | [] => .ok place
  | part :: rest =>
    match entryAt? tree.root place with
    | some (.directory entries) =>
      if part = [] || part = ['.'] then tree.follow links place rest
      else if part = ['.', '.'] then tree.follow links place.dropLast rest
      else if nameLimit < byteSize part then .error .nameTooLong
      else match entry? entries part with
        | none => .error .notFound
        | some (.link target) =>
          match links with
          | 0 => .error .tooManyLinks
          | left + 1 =>
            tree.follow left (if isAbsolute target then [] else place) (parts target ++ rest)
        | some _ => tree.follow links (place ++ [part]) rest
    | _ => .error .notDirectory
termination_by (links, path.length)

/-- The place at which a path begins, if the path can be one. -/
def origin (tree : FileTree) (path : Text) : Except AccessFault Location :=
  if path.elem '\x00' then .error .nullInPath
  else if path.isEmpty then .error .notFound
  else if pathLimit < byteSize path then .error .nameTooLong
  else .ok (if isAbsolute path then [] else tree.current)

/-- The location that a path leads to. -/
def locate (tree : FileTree) (path : Text) : Except AccessFault Location := do
  tree.follow linkLimit (← tree.origin path) (parts path)

/-- The location and the entry that a path leads to. -/
def reach (tree : FileTree) (path : Text) : Except AccessFault (Location × Entry) := do
  let place ← tree.locate path
  match entryAt? tree.root place with
  | some entry => return (place, entry)
  | none => throw .notFound

def isFile (tree : FileTree) (path : Text) : Bool :=
  match tree.reach path with
  | .ok (_, .file _) => true
  | _ => false

/-- The directory that a path leads to. -/
def directory? (tree : FileTree) (path : Text) : Option (Location × Entries) :=
  match tree.reach path with
  | .ok (place, .directory entries) => some (place, entries)
  | _ => none

/-- Whether a path leads anywhere. -/
def leads (tree : FileTree) (path : Text) : Bool := (tree.reach path).isOk

/-- The text of a file. -/
def readText (tree : FileTree) (path : Text) : Except AccessFault Text := do
  match ← tree.reach path with
  | (_, .file content) =>
    match Utf8.decode? content with
    | some text => return text
    | none => throw .notText
  | _ => throw .isDirectory

/-- What the last part of a path is in its directory: a place for a file, or a link with the
place that it counts from. -/
def landing (tree : FileTree) (place : Location) (path : List Text) :
    Except AccessFault (Location ⊕ Location × Text) := do
  let named := (path.reverse.dropWhile List.isEmpty).reverse
  let name := named.getLast?.getD ['.']
  if name = ['.'] || name = ['.', '.'] then
    let _ ← tree.follow linkLimit place path
    throw .isDirectory
  let parent ← tree.follow linkLimit place named.dropLast
  match entryAt? tree.root parent with
  | some (.directory entries) =>
    if named.length < path.length then throw .isDirectory
    if nameLimit < byteSize name then throw .nameTooLong
    match entry? entries name with
    | some (.directory _) => throw .isDirectory
    | some (.link target) => return .inr (parent, target)
    | _ => return .inl (parent ++ [name])
  | _ => throw .notDirectory

/-- Where a file that is written to a path comes to lie, if at most `links` links end a path. -/
def destination (tree : FileTree) : Nat → Location → List Text → Except AccessFault Location
  | 0, place, path => do
    match ← tree.landing place path with
    | .inl final => return final
    | .inr _ => throw .tooManyLinks
  | left + 1, place, path => do
    match ← tree.landing place path with
    | .inl final => return final
    | .inr (parent, target) =>
      tree.destination left (if isAbsolute target then [] else parent) (parts target)

/-- The tree with a file written, which may be there already. -/
def writeText (tree : FileTree) (path content : Text) : Except AccessFault FileTree := do
  let place ← tree.destination linkLimit (← tree.origin path) (parts path)
  return { tree with root := putAt (.file (Utf8.encode content)) place tree.root }

end FileTree
end SeedCoverage.Files

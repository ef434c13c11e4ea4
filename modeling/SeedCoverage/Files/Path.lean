import SeedCoverage.Text.Basic

/-! Paths as text, the components they consist of, and their order. Two spellings with the same
components are the same path. -/
namespace SeedCoverage.Files

/-- A part of a path. Only at its start does a single dot count. -/
inductive Component where
  | root
  | current
  | parent
  | name (text : Text)
  deriving DecidableEq, Repr

/-- Numbers whose lexicographic order is that of components: the root, a dot, two dots, names. -/
def Component.key : Component → List Nat
  | .root => [0]
  | .current => [1]
  | .parent => [2]
  | .name text => 3 :: text.map Char.toNat

/-- A path that does not depend on the current directory. -/
def isAbsolute (path : Text) : Bool := path.head? == some '/'

/-- The texts between slashes. -/
def parts (path : Text) : List Text := Text.splitOn '/' path

/-- The component that a part stands for, if any. -/
def component? (first : Bool) (part : Text) : Option Component :=
  if part = [] then none
  else if part = ['.'] then if first then some .current else none
  else if part = ['.', '.'] then some .parent
  else some (.name part)

def components (path : Text) : List Component :=
  match parts path with
  | [] => []
  | first :: rest =>
    (if isAbsolute path then some .root else component? true first).toList ++
      rest.filterMap (component? false)

/-- Lexicographic order of lists, with the order of their elements. -/
def lexLe {α : Type} (compare : α → α → Ordering) : List α → List α → Bool
  | [], _ => true
  | _ :: _, [] => false
  | x :: xs, y :: ys =>
    match compare x y with
    | .lt => true
    | .eq => lexLe compare xs ys
    | .gt => false

/-- The order of components. -/
def Component.compare (left right : Component) : Ordering :=
  if left = right then .eq else if lexLe Ord.compare left.key right.key then .lt else .gt

/-- The order of paths. -/
def pathLe (left right : Text) : Bool :=
  lexLe Component.compare (components left) (components right)

/-- Two spellings of one path. -/
def samePath (left right : Text) : Bool := components left == components right

/-- A name in a directory. -/
def join (directory name : Text) : Text :=
  if isAbsolute name then name
  else if directory.isEmpty || directory.getLast? == some '/' then directory ++ name
  else directory ++ '/' :: name

/-- What stands behind the last dot of the last component, if something stands before it. -/
def extension? (path : Text) : Option Text :=
  match (components path).getLast? with
  | some (.name name) =>
    let after := (name.reverse.takeWhile (· != '.')).reverse
    let before := name.length - after.length
    if 1 < before then some after else none
  | _ => none

end SeedCoverage.Files

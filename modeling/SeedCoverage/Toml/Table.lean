import SeedCoverage.Toml.Basic

/-! Tables under construction. A table comes about by a header of its own, on the way to a longer
header, or on the way of a dotted key, and what may be added later depends on which. -/
namespace SeedCoverage.Toml

/-- How a table came about. -/
inductive Origin where
  | header
  | implied
  | dotted
  deriving DecidableEq

/-- A member of a table: a finished value, a table, or the list of tables under one repeated header,
the last one first. -/
inductive Node where
  | value (value : Toml)
  | table (origin : Origin) (members : List (Text × Node))
  | tables (elements : List (List (Text × Node)))

abbrev Members := List (Text × Node)

/-- The member of that name. -/
def find? (members : Members) (name : Text) : Option Node :=
  (members.find? fun member => member.1 == name).map Prod.snd

/-- The members with that name given to `node`. -/
def put (members : Members) (name : Text) (node : Node) : Members :=
  if members.any fun member => member.1 == name then
    members.map fun member => if member.1 == name then (name, node) else member
  else members ++ [(name, node)]

/-- Changes the members at the end of a path of headers. Tables on the way that do not exist yet
come to be; of repeated tables the last one is meant. -/
def atHeader (change : Members → Option Members) : List Text → Members → Option Members
  | [], members => change members
  | name :: path, members =>
    match find? members name with
    | none => (atHeader change path []).map fun inner => put members name (.table .implied inner)
    | some (.table origin inner) =>
      (atHeader change path inner).map fun inner => put members name (.table origin inner)
    | some (.tables (last :: others)) =>
      (atHeader change path last).map fun last => put members name (.tables (last :: others))
    | some _ => none

/-- Opens the table of a header: a new one, or one that was only implied so far. -/
def openTable (name : Text) (members : Members) : Option Members :=
  match find? members name with
  | none => some (put members name (.table .header []))
  | some (.table .implied inner) => some (put members name (.table .header inner))
  | some _ => none

/-- Opens one more table of a repeated header. -/
def openElement (name : Text) (members : Members) : Option Members :=
  match find? members name with
  | none => some (put members name (.tables [[]]))
  | some (.tables elements) => some (put members name (.tables ([] :: elements)))
  | some _ => none

/-- Gives a value to a dotted key. Tables on the way must not have a header of their own, and the
last one must have come about by a dotted key. -/
def assign (value : Toml) : List Text → Origin → Members → Option Members
  | [], _, _ => none
  | [name], origin, members =>
    if origin = .implied || (find? members name).isSome then none
    else some (put members name (.value value))
  | name :: path, _, members =>
    match find? members name with
    | none => (assign value path .dotted []).map fun inner => put members name (.table .dotted inner)
    | some (.table .header _) => none
    | some (.table origin inner) =>
      (assign value path origin inner).map fun inner => put members name (.table origin inner)
    | some (.tables (last :: others)) =>
      (assign value path .implied last).map fun last => put members name (.tables (last :: others))
    | some _ => none

mutual
/-- The finished value of a member. -/
def Node.finish : Node → Toml
  | .value value => value
  | .table _ members => .table (finishMembers members)
  | .tables elements => .array (finishElements elements).reverse

def finishMembers : List (Text × Node) → List (Text × Toml)
  | [] => []
  | (name, node) :: rest => (name, node.finish) :: finishMembers rest

def finishElements : List (List (Text × Node)) → List Toml
  | [] => []
  | members :: rest => .table (finishMembers members) :: finishElements rest
end

end SeedCoverage.Toml

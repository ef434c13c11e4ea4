import SeedCoverage.Text.Blank

/-! The tables that a run reports on. A catalog is a list of declarations in which nothing is at
fault: names are identifiers, no table is declared twice, and a parent is another table of it. -/
namespace SeedCoverage

open Text

/-- A tracked table: the fields a row must have, and the table whose rows it may follow. -/
structure TableSpec where
  label : Text
  name : Text
  required : List Text
  follows : Option Text := none
  deriving DecidableEq, Repr

/-- A letter or underscore, then letters, digits and underscores, all ASCII. -/
def isIdentifier : Text → Bool
  | [] => false
  | c :: rest => (c.isAlpha || c == '_') && rest.all fun d => d.isAlphanum || d == '_'

/-- What is wrong with a list of declarations. -/
inductive CatalogFault where
  | noTables
  | blankLabel (table : Text)
  | badName (table : Text)
  | noFields (table : Text)
  | badField (field table : Text)
  | duplicate (table : Text)
  | unknownParent (table parent : Text)
  deriving DecidableEq, Repr

def CatalogFault.message : CatalogFault → Text
  | .noTables => "catalog has no tables"
  | .blankLabel table => "table '" ++ table ++ "' has an empty label"
  | .badName table => "invalid table name '" ++ table ++ "'"
  | .noFields table => "table '" ++ table ++ "' declares no required fields"
  | .badField field table => "invalid field name '" ++ field ++ "' in table '" ++ table ++ "'"
  | .duplicate table => "duplicate table '" ++ table ++ "'"
  | .unknownParent table parent =>
    "table '" ++ table ++ "' follows unknown table '" ++ parent ++ "'"

/-- The place of the first table of that name, ASCII letter case aside. -/
def findTable (tables : List TableSpec) (name : Text) : Option (Fin tables.length) :=
  tables.findFinIdx? fun spec => same spec.name name

/-- The first fault of one declaration, given those before it. -/
def TableSpec.fault? (earlier : List TableSpec) (spec : TableSpec) : Option CatalogFault :=
  if blank spec.label then some (.blankLabel spec.name)
  else if !isIdentifier spec.name then some (.badName spec.name)
  else if spec.required.isEmpty then some (.noFields spec.name)
  else match spec.required.find? fun field => !isIdentifier field with
    | some field => some (.badField field spec.name)
    | none =>
      if earlier.any fun other => same other.name spec.name then some (.duplicate spec.name)
      else none

/-- A parent must be a declared table of another name. -/
def TableSpec.parentFault? (tables : List TableSpec) (spec : TableSpec) : Option CatalogFault :=
  match spec.follows with
  | none => none
  | some parent =>
    match findTable tables parent with
    | some place =>
      if tables[place].name = spec.name then some (.unknownParent spec.name parent) else none
    | none => some (.unknownParent spec.name parent)

/-- The first fault of the declarations `later`, with `earlier` before them. -/
def declarationFault? (earlier : List TableSpec) : List TableSpec → Option CatalogFault
  | [] => none
  | spec :: later => (spec.fault? earlier).or (declarationFault? (earlier ++ [spec]) later)

/-- The first fault: each declaration by itself in order, then the parents in order. -/
def catalogFault? (tables : List TableSpec) : Option CatalogFault :=
  if tables.isEmpty then some .noTables
  else (declarationFault? [] tables).or (tables.findSome? (TableSpec.parentFault? tables))

structure Catalog where
  tables : List TableSpec
  sound : catalogFault? tables = none

namespace Catalog

def ofTables (tables : List TableSpec) : Except CatalogFault Catalog :=
  match found : catalogFault? tables with
  | some fault => .error fault
  | none => .ok ⟨tables, found⟩

/-- A table of the catalog, by its place. -/
abbrev Id (catalog : Catalog) := Fin catalog.tables.length

variable (catalog : Catalog)

def get (id : catalog.Id) : TableSpec := catalog.tables[id]

def lookup (name : Text) : Option catalog.Id := findTable catalog.tables name

/-- The table that `id` follows. -/
def parentOf (id : catalog.Id) : Option catalog.Id := (catalog.get id).follows.bind catalog.lookup

/-- A value for every table. -/
abbrev PerTable (α : Type) := Vector α catalog.tables.length

/-- The same values but for one table. -/
def put {α : Type} (values : catalog.PerTable α) (id : catalog.Id) (value : α) :
    catalog.PerTable α :=
  values.set id.val value id.isLt

/-- The places of the tables, in order. -/
def ids : List catalog.Id := List.finRange catalog.tables.length

/-- The tables that are tracked when no others are declared: those of a game's content. -/
def builtinTables : List TableSpec := [
  ⟨"Items", "items", ["name", "description", "rarity", "icon"], none⟩,
  ⟨"Item translations", "item_translations", ["item_id", "locale", "name", "description"],
    some "items"⟩,
  ⟨"Creatures", "creatures", ["name", "description", "level", "habitat"], none⟩,
  ⟨"Creature translations", "creature_translations", ["creature_id", "locale", "name"],
    some "creatures"⟩,
  ⟨"Quests", "quests", ["title", "summary", "giver", "reward"], none⟩,
  ⟨"Locations", "locations", ["name", "region", "description"], none⟩]

def builtin : Catalog := ⟨builtinTables, by decide +kernel⟩

instance : Inhabited Catalog := ⟨builtin⟩

end Catalog
end SeedCoverage

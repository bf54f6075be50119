import SchemaDelta.Text.Case

/-!
# Kinds of schema objects

The closed set of kinds that are compared. `all` lists containers before what they
contain, which is the order of every run and report; the constructors give the order
in which sets of kinds are listed.
-/

namespace SchemaDelta

inductive Kind where
  | catalog
  | schema
  | table
  | column
  | index
  | primaryKey
  | foreignKey
  | uniqueConstraint
  deriving DecidableEq, Ord

namespace Kind

/-- Every kind, containers before their contents. -/
def all : List Kind :=
  [catalog, schema, table, column, primaryKey, index, uniqueConstraint, foreignKey]

/-- Every kind, in the order of sets of kinds. -/
def ranked : List Kind :=
  [catalog, schema, table, column, index, primaryKey, foreignKey, uniqueConstraint]

def name : Kind → String
  | catalog => "catalog"
  | schema => "schema"
  | table => "table"
  | column => "column"
  | index => "index"
  | primaryKey => "primaryKey"
  | foreignKey => "foreignKey"
  | uniqueConstraint => "uniqueConstraint"

/-- The level of a kind. Which object something is depends on linked objects of lower levels
only. -/
def level : Kind → Nat
  | catalog => 0
  | schema => 1
  | table => 2
  | column => 3
  | index => 4
  | primaryKey => 3
  | foreignKey => 3
  | uniqueConstraint => 4

/-- The kind with exactly this name. -/
def ofName? (s : String) : Option Kind := ranked.find? fun k => k.name == s

/-- The kind that a text names, whatever its case and whatever hyphens and underscores it has. -/
def parse? (s : String) : Option Kind :=
  let folded := Text.lower (String.ofList (s.toList.filter fun c => c != '_' && c != '-'))
  ranked.find? fun k => Text.lower k.name == folded

/-- The message for a text that names no kind. -/
def unknownMessage (s : String) : String := s!"unknown object kind '{s}'"

end Kind

end SchemaDelta

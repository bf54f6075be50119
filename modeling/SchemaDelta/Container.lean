import SchemaDelta.Dialect

/-!
# Containers

The place of an object, a catalog and a schema either of which may be left open. The
standard form of a container leaves out what the dialect supplies by default.
-/

namespace SchemaDelta

structure Container where
  catalog : Option String
  schema : Option String
  deriving DecidableEq

namespace Container

/-- Read `catalog.schema`, cut at the first point, or a schema alone. -/
def parse (s : String) : Container :=
  let cs := s.toList
  match cs.dropWhile fun c => c != '.' with
  | [] => ⟨none, some s⟩
  | _ :: rest => ⟨some (String.ofList (cs.takeWhile fun c => c != '.')), some (String.ofList rest)⟩

/-- A trimmed name; a blank one is no name. -/
def trimName (name : Option String) : Option String :=
  (name.map Text.trim).filter fun n => n != ""

/-- Whether a name is the default one, ignoring case. -/
def isDefaultName (name : Option String) (default : Option String) : Bool :=
  match name, default with
  | some a, some b => Text.sameIgnoringCase a b
  | _, _ => false

/-- The standard form: default names are left out, levels that the dialect lacks are dropped, and
names have the dialect's case. Without schemas, one name serves for both levels. -/
def standardize (c : Container) (d : Dialect) : Container :=
  if !d.hasCatalogs then ⟨none, none⟩
  else
    let catalog := trimName c.catalog
    let schema := trimName c.schema
    let catalog := if d.hasSchemas then catalog else catalog.or schema
    let catalog := if isDefaultName catalog d.defaultCatalog then none else catalog
    let schema :=
      if !d.hasSchemas then catalog
      else if isDefaultName schema d.defaultSchema then none
      else schema
    ⟨catalog.map d.nameCase.apply, schema.map d.nameCase.apply⟩

def text (c : Container) : String :=
  match c.catalog, c.schema with
  | some catalog, some schema => s!"{catalog}.{schema}"
  | some catalog, none => catalog
  | none, some schema => schema
  | none, none => "(default)"

end Container

/-- Two containers that stand for each other, one on either side. -/
structure Alias where
  reference : Container
  comparison : Container
  deriving DecidableEq

end SchemaDelta

import SchemaDelta.Document
import SchemaDelta.Json.Writer
import SchemaDelta.Snapshot

/-!
# Resolving documents

Resolving a document turns names into links. A name stands for the last entry that is
declared under it, and tables and columns are looked up under exactly the schema that
the referring entry states. The first reference that leads nowhere ends the attempt.

Every entry becomes one instance, whose tag tells its origin, kind and position, so two
documents resolved under different origins have no instance in common.
-/

namespace SchemaDelta

/-- A reference to an object that is not declared. -/
structure UnresolvedReference where
  /-- The entry that refers. -/
  context : String
  kind : Kind
  name : String
  deriving DecidableEq

def UnresolvedReference.message (e : UnresolvedReference) : String :=
  s!"Unresolved reference in {e.context}: {e.kind.name} '{e.name}' not found"

namespace Value

mutual

/-- The value of some data: objects become their text, `null` an empty text. -/
def ofJson : Json → Value
  | .null => text ""
  | .bool b => bool b
  | .integer n => number (if n ≤ Int64.maxValue.toInt then .int n else .uint n.toNat)
  | .float x _ => number (.float x)
  | .string s => text s
  | .array items => list (ofJsonItems items)
  | .object members => text (Json.object members).compact
  | .unreadable => text ""

def ofJsonItems : List Json → List Value
  | [] => []
  | j :: rest => ofJson j :: ofJsonItems rest

end

end Value

namespace Document

/-- The custom attributes of an object; `null` stands for none. -/
def objectAttributes (attributes : Attributes) : SchemaDelta.Attributes :=
  (attributes.filter fun a => !a.2.isNull).map fun a => (a.1, Value.ofJson a.2)

/-- The last element with a property. -/
def findLast? {α : Type} (p : α → Bool) (xs : List α) : Option α := xs.reverse.find? p

/-- A look-up that must succeed. -/
def found {α : Type} (x : Option α) (context : String) (kind : Kind) (name : String) :
    Except UnresolvedReference α :=
  match x with
  | some a => .ok a
  | none => .error ⟨context, kind, name⟩

/-- How an entry is called in messages. -/
def entryText (what : String) (name : Option String) : String :=
  match name with
  | some name => s!"{what} '{name}'"
  | none => s!"unnamed {what}"

/-- A table name with its schema. -/
def qualified (schema : Option String) (name : String) : String :=
  match schema with
  | some schema => s!"{schema}.{name}"
  | none => name

def isCalled (name : String) (declared : Option String) : Bool := declared == some name

/-- Whether a table is declared under a name in a schema. -/
def isTable (schema : Option String) (name : String) (t : Table) : Bool :=
  t.name == some name && t.schema.bind (·.name) == schema

/-- The objects that references are looked up in. -/
structure Declared where
  catalogs : List Catalog
  schemas : List Schema
  tables : List Table
  columns : List Column
  indexes : List Index

namespace Declared

def schema (d : Declared) (name : Option String) (context : String) :
    Except UnresolvedReference (Option Schema) :=
  match name with
  | none => .ok none
  | some name =>
    (found (findLast? (fun s => isCalled name s.name) d.schemas) context .schema name).map some

def table (d : Declared) (schema name : Option String) (context : String) :
    Except UnresolvedReference (Option Table) :=
  match name with
  | none => .ok none
  | some name =>
    (found (findLast? (isTable schema name) d.tables) context .table
      (qualified schema name)).map some

/-- Whether a relation is the table declared under the same name in the same schema as `t`. -/
def onTable (t : Table) (relation : Option Table) : Bool :=
  match relation with
  | some r => r.name == t.name && r.schema.bind (·.name) == t.schema.bind (·.name)
  | none => false

/-- One member of a column list. Without a table, a name is all that is known of a column. -/
def column (d : Declared) (table : Option Table) (ref : ColumnRef) (tag : Tag) (context : String) :
    Except UnresolvedReference Column :=
  let bare (name : String) : Column :=
    { tag, name := some name, relation := none, dataType := none, nullable := none,
      defaultValue := none, remarks := none, order := none, computed := none,
      descending := none, autoIncrement := none, attributes := [] }
  match ref, table with
  | .named name, some t =>
    let owner := t.name.getD ""
    found (findLast? (fun c => onTable t c.relation && isCalled name c.name) d.columns) context
      .column s!"{owner}.{name}"
  | .named name, none => .ok (bare name)
  | .expression name computed descending, table =>
    .ok { bare name with
      relation := table, computed := some computed, descending := some descending }

/-- A column list; `tag` tells the instances of its expressions and bare names apart. -/
def columnsOf (d : Declared) (table : Option Table) (refs : List ColumnRef) (tag : Nat → Tag)
    (context : String) : Except UnresolvedReference (List Column) :=
  refs.zipIdx.mapM fun (ref, slot) => d.column table ref (tag slot) context

/-- The index behind a constraint; without a table or a name there is none. -/
def backingIndex (d : Declared) (table : Option Table) (name : Option String) (context : String) :
    Except UnresolvedReference (Option Index) :=
  match table, name with
  | some t, some name =>
    (found (findLast? (fun i => onTable t i.table && isCalled name i.name) d.indexes) context
      .index name).map some
  | _, _ => .ok none

end Declared

def resolveCatalog (origin position : Nat) (e : CatalogEntry) : Catalog :=
  { tag := .entry origin .catalog position, name := some e.name, isDefault := e.isDefault,
    attributes := [] }

def resolveSchema (d : Declared) (origin position : Nat) (e : SchemaEntry) :
    Except UnresolvedReference Schema := do
  let catalog ← match e.catalog with
    | none => pure none
    | some name =>
      (found (findLast? (fun c => isCalled name c.name) d.catalogs)
        (entryText "schema" (some e.name)) .catalog name).map some
  return { tag := .entry origin .schema position, name := some e.name, catalog,
           isDefault := e.isDefault, attributes := [] }

def resolveTable (d : Declared) (origin position : Nat) (e : TableEntry) :
    Except UnresolvedReference Table := do
  let schema ← d.schema e.schema (entryText "table" (some e.name))
  return { tag := .entry origin .table position, name := some e.name, schema,
           remarks := e.remarks, tablespace := e.tablespace,
           defaultTablespace := e.defaultTablespace, attributes := objectAttributes e.attributes }

def resolveColumn (d : Declared) (origin position : Nat) (e : ColumnEntry) :
    Except UnresolvedReference Column := do
  let table ← d.table e.schema (some e.table) s!"column '{e.table}.{e.name}'"
  return { tag := .entry origin .column position, name := some e.name, relation := table,
           dataType := e.type.map DataType.parse, nullable := e.nullable,
           defaultValue := (e.defaultValue.filter fun j => !j.isNull).map Value.ofJson,
           remarks := e.remarks, order := e.order, computed := e.computed,
           descending := e.descending, autoIncrement := e.autoIncrement,
           attributes := objectAttributes e.attributes }

def resolveIndex (d : Declared) (origin position : Nat) (e : IndexEntry) :
    Except UnresolvedReference Index := do
  let context := entryText "index" e.name
  let table ← d.table e.schema e.table context
  let columns ← d.columnsOf table e.columns (.listed origin .index position 0) context
  let schema ← d.schema e.schema context
  return { tag := .entry origin .index position, name := e.name, table, ownSchema := schema,
           columns, unique := e.unique, clustered := e.clustered,
           attributes := objectAttributes e.attributes }

def resolvePrimaryKey (d : Declared) (origin position : Nat) (e : PrimaryKeyEntry) :
    Except UnresolvedReference PrimaryKey := do
  let context := entryText "primary key" e.name
  let table ← d.table e.schema e.table context
  let columns ← d.columnsOf table e.columns (.listed origin .primaryKey position 0) context
  let backingIndex ← d.backingIndex table e.backingIndex context
  return { tag := .entry origin .primaryKey position, name := e.name, table, columns,
           backingIndex, attributes := objectAttributes e.attributes }

def resolveForeignKey (d : Declared) (origin position : Nat) (e : ForeignKeyEntry) :
    Except UnresolvedReference ForeignKey := do
  let context := entryText "foreign key" e.name
  let table ← d.table e.schema e.table context
  let referenced ← d.table e.referencedSchema e.referencedTable context
  let columns ← d.columnsOf table e.columns (.listed origin .foreignKey position 0) context
  let referencedColumns ←
    d.columnsOf referenced e.referencedColumns (.listed origin .foreignKey position 1) context
  let backingIndex ← d.backingIndex table e.backingIndex context
  return { tag := .entry origin .foreignKey position, name := e.name, foreignTable := table,
           foreignColumns := columns, primaryTable := referenced,
           primaryColumns := referencedColumns, updateRule := e.updateRule,
           deleteRule := e.deleteRule, deferrable := e.deferrable,
           initiallyDeferred := e.initiallyDeferred, validate := e.validate, backingIndex,
           attributes := objectAttributes e.attributes }

def resolveUniqueConstraint (d : Declared) (origin position : Nat) (e : UniqueConstraintEntry) :
    Except UnresolvedReference UniqueConstraint := do
  let context := entryText "unique constraint" e.name
  let table ← d.table e.schema e.table context
  let columns ← d.columnsOf table e.columns (.listed origin .uniqueConstraint position 0) context
  let backingIndex ← d.backingIndex table e.backingIndex context
  let schema ← d.schema e.schema context
  return { tag := .entry origin .uniqueConstraint position, name := e.name, table,
           ownSchema := schema, columns, deferrable := e.deferrable,
           initiallyDeferred := e.initiallyDeferred, disabled := e.disabled,
           clustered := e.clustered, backingIndex, attributes := objectAttributes e.attributes }

/-- Resolve the entries of a section in order. -/
def resolveAll {α β : Type} (resolve : Nat → α → Except UnresolvedReference β) (entries : List α) :
    Except UnresolvedReference (List β) :=
  entries.zipIdx.mapM fun (e, position) => resolve position e

/-- Link the objects of a document. Sections are resolved in order, each against those before it. -/
def resolve (d : Document) (origin : Nat) : Except UnresolvedReference Snapshot := do
  let catalogs := d.catalogs.zipIdx.map fun (e, position) => resolveCatalog origin position e
  let known : Declared := ⟨catalogs, [], [], [], []⟩
  let schemas ← resolveAll (resolveSchema known origin) d.schemas
  let known := { known with schemas }
  let tables ← resolveAll (resolveTable known origin) d.tables
  let known := { known with tables }
  let columns ← resolveAll (resolveColumn known origin) d.columns
  let known := { known with columns }
  let indexes ← resolveAll (resolveIndex known origin) d.indexes
  let known := { known with indexes }
  let primaryKeys ← resolveAll (resolvePrimaryKey known origin) d.primaryKeys
  let foreignKeys ← resolveAll (resolveForeignKey known origin) d.foreignKeys
  let uniqueConstraints ← resolveAll (resolveUniqueConstraint known origin) d.uniqueConstraints
  return {
    productName := d.productName
    productVersion := d.productVersion
    objects := catalogs.map .catalog ++ schemas.map .schema ++ tables.map .table ++
      columns.map .column ++ indexes.map .index ++ primaryKeys.map .primaryKey ++
      foreignKeys.map .foreignKey ++ uniqueConstraints.map .uniqueConstraint }

end Document

end SchemaDelta

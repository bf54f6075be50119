import SchemaDelta.Document
import SchemaDelta.Json.Reader
import SchemaDelta.Json.Record
import SchemaDelta.Json.Writer

/-!
# Snapshot documents as JSON

Every entry is a record. Parts that are unset and empty attributes are left out when a
document is written; sections and flags with a default are always written.
-/

namespace SchemaDelta

namespace Document

open Json (textMember flagMember)

def attributesOfJson? (j : Json) : Option Attributes := j.mapOf? Json.settle?

/-- Attributes are left out when there are none. -/
def attributesMember (attributes : Attributes) : List (String × Json) :=
  if attributes.isEmpty then [] else [("attributes", .object attributes)]

namespace CatalogEntry

def ofJson? (j : Json) : Option CatalogEntry := do
  let r ← j.record? ["name", "default"] false
  return { name := ← r.required "name" Json.string?
           isDefault := ← r.defaulted "default" false Json.bool? }

def toJson (e : CatalogEntry) : Json :=
  .object [("name", .string e.name), ("default", .bool e.isDefault)]

end CatalogEntry

namespace SchemaEntry

def ofJson? (j : Json) : Option SchemaEntry := do
  let r ← j.record? ["name", "catalog", "default"] false
  return { name := ← r.required "name" Json.string?
           catalog := ← r.optional "catalog" Json.string?
           isDefault := ← r.defaulted "default" false Json.bool? }

def toJson (e : SchemaEntry) : Json :=
  .object (("name", .string e.name) :: textMember "catalog" e.catalog ++
    [("default", .bool e.isDefault)])

end SchemaEntry

namespace TableEntry

def ofJson? (j : Json) : Option TableEntry := do
  let r ← j.record?
    ["name", "schema", "remarks", "tablespace", "default_tablespace", "attributes"] false
  return { name := ← r.required "name" Json.string?
           schema := ← r.optional "schema" Json.string?
           remarks := ← r.optional "remarks" Json.string?
           tablespace := ← r.optional "tablespace" Json.string?
           defaultTablespace := ← r.optional "default_tablespace" Json.bool?
           attributes := ← r.defaulted "attributes" [] attributesOfJson? }

def toJson (e : TableEntry) : Json :=
  .object (("name", .string e.name) :: textMember "schema" e.schema ++
    textMember "remarks" e.remarks ++ textMember "tablespace" e.tablespace ++
    flagMember "default_tablespace" e.defaultTablespace ++ attributesMember e.attributes)

end TableEntry

def autoIncrementOfJson? (j : Json) : Option AutoIncrement := do
  let r ← j.record? ["start_with", "increment_by"] false
  return { start := ← r.optional "start_with" Json.int64?
           step := ← r.optional "increment_by" Json.int64? }

def autoIncrementToJson (a : AutoIncrement) : Json :=
  .object (Json.optionalMember "start_with" a.start .integer ++
    Json.optionalMember "increment_by" a.step .integer)

namespace ColumnEntry

def ofJson? (j : Json) : Option ColumnEntry := do
  let r ← j.record?
    ["table", "schema", "name", "type", "nullable", "default_value", "remarks", "order",
     "computed", "descending", "auto_increment", "attributes"] false
  return { table := ← r.required "table" Json.string?
           schema := ← r.optional "schema" Json.string?
           name := ← r.required "name" Json.string?
           type := ← r.optional "type" Json.string?
           nullable := ← r.optional "nullable" Json.bool?
           defaultValue := ← r.optional "default_value" Json.settle?
           remarks := ← r.optional "remarks" Json.string?
           order := ← r.optional "order" Json.int64?
           computed := ← r.optional "computed" Json.bool?
           descending := ← r.optional "descending" Json.bool?
           autoIncrement := ← r.optional "auto_increment" autoIncrementOfJson?
           attributes := ← r.defaulted "attributes" [] attributesOfJson? }

def toJson (e : ColumnEntry) : Json :=
  .object (("table", .string e.table) :: textMember "schema" e.schema ++
    ("name", .string e.name) :: textMember "type" e.type ++ flagMember "nullable" e.nullable ++
    Json.optionalMember "default_value" e.defaultValue id ++ textMember "remarks" e.remarks ++
    Json.optionalMember "order" e.order .integer ++ flagMember "computed" e.computed ++
    flagMember "descending" e.descending ++
    Json.optionalMember "auto_increment" e.autoIncrement autoIncrementToJson ++
    attributesMember e.attributes)

end ColumnEntry

namespace ColumnRef

/-- A name, or an expression; unlike other records an expression is never an array, and nothing in
it is skipped unread. -/
def ofJson? (j : Json) : Option ColumnRef :=
  match j with
  | .string s => some (.named s)
  | .object ms => do
    let _ ← (Json.object ms).settle?
    let r ← (Json.object ms).record? ["name", "computed", "descending"] false
    return .expression (← r.required "name" Json.string?)
      (← r.defaulted "computed" false Json.bool?) (← r.defaulted "descending" false Json.bool?)
  | _ => none

def toJson : ColumnRef → Json
  | named name => .string name
  | expression name computed descending =>
    .object [("name", .string name), ("computed", .bool computed), ("descending", .bool descending)]

end ColumnRef

def columnsOfJson? (j : Json) : Option (List ColumnRef) := j.listOf? ColumnRef.ofJson?

def columnsToJson (columns : List ColumnRef) : Json := .array (columns.map ColumnRef.toJson)

namespace IndexEntry

def ofJson? (j : Json) : Option IndexEntry := do
  let r ← j.record?
    ["name", "table", "schema", "columns", "unique", "clustered", "attributes"] false
  return { name := ← r.optional "name" Json.string?
           table := ← r.optional "table" Json.string?
           schema := ← r.optional "schema" Json.string?
           columns := ← r.defaulted "columns" [] columnsOfJson?
           unique := ← r.optional "unique" Json.bool?
           clustered := ← r.optional "clustered" Json.bool?
           attributes := ← r.defaulted "attributes" [] attributesOfJson? }

def toJson (e : IndexEntry) : Json :=
  .object (textMember "name" e.name ++ textMember "table" e.table ++
    textMember "schema" e.schema ++ ("columns", columnsToJson e.columns) ::
    flagMember "unique" e.unique ++ flagMember "clustered" e.clustered ++
    attributesMember e.attributes)

end IndexEntry

namespace PrimaryKeyEntry

def ofJson? (j : Json) : Option PrimaryKeyEntry := do
  let r ← j.record? ["name", "table", "schema", "columns", "backing_index", "attributes"] false
  return { name := ← r.optional "name" Json.string?
           table := ← r.optional "table" Json.string?
           schema := ← r.optional "schema" Json.string?
           columns := ← r.defaulted "columns" [] columnsOfJson?
           backingIndex := ← r.optional "backing_index" Json.string?
           attributes := ← r.defaulted "attributes" [] attributesOfJson? }

def toJson (e : PrimaryKeyEntry) : Json :=
  .object (textMember "name" e.name ++ textMember "table" e.table ++
    textMember "schema" e.schema ++ ("columns", columnsToJson e.columns) ::
    textMember "backing_index" e.backingIndex ++ attributesMember e.attributes)

end PrimaryKeyEntry

namespace ForeignKeyEntry

def ofJson? (j : Json) : Option ForeignKeyEntry := do
  let r ← j.record?
    ["name", "table", "schema", "columns", "referenced_table", "referenced_schema",
     "referenced_columns", "update_rule", "delete_rule", "deferrable", "initially_deferred",
     "validate", "backing_index", "attributes"] false
  return { name := ← r.optional "name" Json.string?
           table := ← r.optional "table" Json.string?
           schema := ← r.optional "schema" Json.string?
           columns := ← r.defaulted "columns" [] columnsOfJson?
           referencedTable := ← r.optional "referenced_table" Json.string?
           referencedSchema := ← r.optional "referenced_schema" Json.string?
           referencedColumns := ← r.defaulted "referenced_columns" [] columnsOfJson?
           updateRule := ← r.optional "update_rule" Json.string?
           deleteRule := ← r.optional "delete_rule" Json.string?
           deferrable := ← r.optional "deferrable" Json.bool?
           initiallyDeferred := ← r.optional "initially_deferred" Json.bool?
           validate := ← r.optional "validate" Json.bool?
           backingIndex := ← r.optional "backing_index" Json.string?
           attributes := ← r.defaulted "attributes" [] attributesOfJson? }

def toJson (e : ForeignKeyEntry) : Json :=
  .object (textMember "name" e.name ++ textMember "table" e.table ++
    textMember "schema" e.schema ++ ("columns", columnsToJson e.columns) ::
    textMember "referenced_table" e.referencedTable ++
    textMember "referenced_schema" e.referencedSchema ++
    ("referenced_columns", columnsToJson e.referencedColumns) ::
    textMember "update_rule" e.updateRule ++ textMember "delete_rule" e.deleteRule ++
    flagMember "deferrable" e.deferrable ++ flagMember "initially_deferred" e.initiallyDeferred ++
    flagMember "validate" e.validate ++ textMember "backing_index" e.backingIndex ++
    attributesMember e.attributes)

end ForeignKeyEntry

namespace UniqueConstraintEntry

def ofJson? (j : Json) : Option UniqueConstraintEntry := do
  let r ← j.record?
    ["name", "table", "schema", "columns", "deferrable", "initially_deferred", "disabled",
     "clustered", "backing_index", "attributes"] false
  return { name := ← r.optional "name" Json.string?
           table := ← r.optional "table" Json.string?
           schema := ← r.optional "schema" Json.string?
           columns := ← r.defaulted "columns" [] columnsOfJson?
           deferrable := ← r.optional "deferrable" Json.bool?
           initiallyDeferred := ← r.optional "initially_deferred" Json.bool?
           disabled := ← r.optional "disabled" Json.bool?
           clustered := ← r.optional "clustered" Json.bool?
           backingIndex := ← r.optional "backing_index" Json.string?
           attributes := ← r.defaulted "attributes" [] attributesOfJson? }

def toJson (e : UniqueConstraintEntry) : Json :=
  .object (textMember "name" e.name ++ textMember "table" e.table ++
    textMember "schema" e.schema ++ ("columns", columnsToJson e.columns) ::
    flagMember "deferrable" e.deferrable ++ flagMember "initially_deferred" e.initiallyDeferred ++
    flagMember "disabled" e.disabled ++ flagMember "clustered" e.clustered ++
    textMember "backing_index" e.backingIndex ++ attributesMember e.attributes)

end UniqueConstraintEntry

/-- Read a document from its tree. -/
def ofJson? (j : Json) : Option Document := do
  let r ← j.record?
    ["product_name", "product_version", "catalogs", "schemas", "tables", "columns", "indexes",
     "primary_keys", "foreign_keys", "unique_constraints"] false
  return { productName := ← r.optional "product_name" Json.string?
           productVersion := ← r.optional "product_version" Json.string?
           catalogs := ← r.defaulted "catalogs" [] (Json.listOf? CatalogEntry.ofJson?)
           schemas := ← r.defaulted "schemas" [] (Json.listOf? SchemaEntry.ofJson?)
           tables := ← r.defaulted "tables" [] (Json.listOf? TableEntry.ofJson?)
           columns := ← r.defaulted "columns" [] (Json.listOf? ColumnEntry.ofJson?)
           indexes := ← r.defaulted "indexes" [] (Json.listOf? IndexEntry.ofJson?)
           primaryKeys := ← r.defaulted "primary_keys" [] (Json.listOf? PrimaryKeyEntry.ofJson?)
           foreignKeys := ← r.defaulted "foreign_keys" [] (Json.listOf? ForeignKeyEntry.ofJson?)
           uniqueConstraints :=
             ← r.defaulted "unique_constraints" [] (Json.listOf? UniqueConstraintEntry.ofJson?) }

/-- The tree of a document. -/
def toJson (d : Document) : Json :=
  .object (textMember "product_name" d.productName ++
    textMember "product_version" d.productVersion ++
    [("catalogs", .array (d.catalogs.map CatalogEntry.toJson)),
     ("schemas", .array (d.schemas.map SchemaEntry.toJson)),
     ("tables", .array (d.tables.map TableEntry.toJson)),
     ("columns", .array (d.columns.map ColumnEntry.toJson)),
     ("indexes", .array (d.indexes.map IndexEntry.toJson)),
     ("primary_keys", .array (d.primaryKeys.map PrimaryKeyEntry.toJson)),
     ("foreign_keys", .array (d.foreignKeys.map ForeignKeyEntry.toJson)),
     ("unique_constraints", .array (d.uniqueConstraints.map UniqueConstraintEntry.toJson))])

/-- Read a document from its text. -/
def parse? (text : String) : Option Document := (Json.read? text).bind ofJson?

/-- The text of a document, indented. -/
def render (d : Document) : String := d.toJson.indented

end Document

end SchemaDelta

import SchemaDelta.DataType
import SchemaDelta.Json

/-!
# Snapshot documents

A flat description of the objects of a database, in which objects refer to each other
by name. Each section lists the entries of one kind. Attributes are sorted by name and
their values are settled.
-/

namespace SchemaDelta

namespace Document

/-- Custom attributes as data. -/
abbrev Attributes := List (String × Json)

structure CatalogEntry where
  name : String
  isDefault : Bool
  deriving DecidableEq

structure SchemaEntry where
  name : String
  catalog : Option String
  isDefault : Bool
  deriving DecidableEq

structure TableEntry where
  name : String
  schema : Option String
  remarks : Option String
  tablespace : Option String
  defaultTablespace : Option Bool
  attributes : Attributes
  deriving DecidableEq

structure ColumnEntry where
  table : String
  schema : Option String
  name : String
  /-- The written type. -/
  type : Option String
  nullable : Option Bool
  defaultValue : Option Json
  remarks : Option String
  order : Option Int
  computed : Option Bool
  descending : Option Bool
  autoIncrement : Option AutoIncrement
  attributes : Attributes
  deriving DecidableEq

/-- A member of a column list: the name of a column of the table, or an expression. -/
inductive ColumnRef where
  | named (name : String)
  | expression (name : String) (computed descending : Bool)
  deriving DecidableEq

structure IndexEntry where
  name : Option String
  table : Option String
  schema : Option String
  columns : List ColumnRef
  unique : Option Bool
  clustered : Option Bool
  attributes : Attributes
  deriving DecidableEq

structure PrimaryKeyEntry where
  name : Option String
  table : Option String
  schema : Option String
  columns : List ColumnRef
  backingIndex : Option String
  attributes : Attributes
  deriving DecidableEq

structure ForeignKeyEntry where
  name : Option String
  /-- The referring table. -/
  table : Option String
  schema : Option String
  columns : List ColumnRef
  /-- The table referred to. -/
  referencedTable : Option String
  referencedSchema : Option String
  referencedColumns : List ColumnRef
  updateRule : Option String
  deleteRule : Option String
  deferrable : Option Bool
  initiallyDeferred : Option Bool
  validate : Option Bool
  backingIndex : Option String
  attributes : Attributes
  deriving DecidableEq

structure UniqueConstraintEntry where
  name : Option String
  table : Option String
  schema : Option String
  columns : List ColumnRef
  deferrable : Option Bool
  initiallyDeferred : Option Bool
  disabled : Option Bool
  clustered : Option Bool
  backingIndex : Option String
  attributes : Attributes
  deriving DecidableEq

end Document

open Document in
structure Document where
  productName : Option String
  productVersion : Option String
  catalogs : List CatalogEntry
  schemas : List SchemaEntry
  tables : List TableEntry
  columns : List ColumnEntry
  indexes : List IndexEntry
  primaryKeys : List PrimaryKeyEntry
  foreignKeys : List ForeignKeyEntry
  uniqueConstraints : List UniqueConstraintEntry
  deriving DecidableEq

end SchemaDelta

import SchemaDelta.Keyed

/-!
# Attribute fields

The key of an attribute. Well-known attributes have a constructor each; all others
are custom, and a custom field may carry the name of a well-known one. Fields are
ordered by name, and of two with one name the well-known field comes first.
-/

namespace SchemaDelta

inductive Field where
  /-- Stands for the object itself when one side of a pair is absent. -/
  | this
  | name
  | default
  | catalog
  | schema
  | table
  | relation
  | remarks
  | tablespace
  | defaultTablespace
  | type
  | nullable
  | defaultValue
  | order
  | computed
  | descending
  | autoIncrementInformation
  /-- Reported when only one of two columns counts on its own. -/
  | autoIncrement
  | columns
  | unique
  | clustered
  | backingIndex
  | foreignKeyTable
  | foreignKeyColumns
  | primaryKeyTable
  | primaryKeyColumns
  | updateRule
  | deleteRule
  | deferrable
  | initiallyDeferred
  | validate
  | disabled
  | custom (key : String)
  deriving DecidableEq

namespace Field

/-- The well-known fields. -/
def known : List Field :=
  [this, name, default, catalog, schema, table, relation, remarks, tablespace,
   defaultTablespace, type, nullable, defaultValue, order, computed, descending,
   autoIncrementInformation, autoIncrement, columns, unique, clustered, backingIndex,
   foreignKeyTable, foreignKeyColumns, primaryKeyTable, primaryKeyColumns, updateRule,
   deleteRule, deferrable, initiallyDeferred, validate, disabled]

/-- The name under which a field is written. -/
def text : Field → String
  | this => "this"
  | name => "name"
  | default => "default"
  | catalog => "catalog"
  | schema => "schema"
  | table => "table"
  | relation => "relation"
  | remarks => "remarks"
  | tablespace => "tablespace"
  | defaultTablespace => "default_tablespace"
  | type => "type"
  | nullable => "nullable"
  | defaultValue => "defaultValue"
  | order => "order"
  | computed => "computed"
  | descending => "descending"
  | autoIncrementInformation => "autoIncrementInformation"
  | autoIncrement => "autoIncrement"
  | columns => "columns"
  | unique => "unique"
  | clustered => "clustered"
  | backingIndex => "backingIndex"
  | foreignKeyTable => "foreignKeyTable"
  | foreignKeyColumns => "foreignKeyColumns"
  | primaryKeyTable => "primaryKeyTable"
  | primaryKeyColumns => "primaryKeyColumns"
  | updateRule => "updateRule"
  | deleteRule => "deleteRule"
  | deferrable => "deferrable"
  | initiallyDeferred => "initiallyDeferred"
  | validate => "validate"
  | disabled => "disabled"
  | custom key => key

def isCustom : Field → Bool
  | custom _ => true
  | _ => false

/-- The field that a name stands for: the well-known one, else a custom one. -/
def ofText (s : String) : Field := (known.find? fun f => f.text == s).getD (custom s)

instance : Ord Field where
  compare a b := (compare a.text b.text).then (compare a.isCustom b.isCustom)

end Field

end SchemaDelta

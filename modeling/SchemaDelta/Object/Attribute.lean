import SchemaDelta.Object

/-!
# Attributes

Every part of an object can be read under its field, as a value or as none when it is
unset. The fields of an object are the declared ones of its kind, set or not, followed
by its custom ones in key order.
-/

namespace SchemaDelta

/-- The value of a custom field. -/
def Attributes.get? (attributes : Attributes) : Field → Option Value
  | .custom key => attributes.lookup key
  | _ => none

namespace Catalog

def get? (o : Catalog) : Field → Option Value
  | .name => o.name.map .text
  | .default => some (.bool o.isDefault)
  | f => Attributes.get? o.attributes f

end Catalog

namespace Schema

def get? (o : Schema) : Field → Option Value
  | .name => o.name.map .text
  | .catalog => o.catalog.map fun c => .object (.catalog c)
  | .default => some (.bool o.isDefault)
  | f => Attributes.get? o.attributes f

end Schema

namespace Table

def get? (o : Table) : Field → Option Value
  | .name => o.name.map .text
  | .schema => o.schema.map fun s => .object (.schema s)
  | .remarks => o.remarks.map .text
  | .tablespace => o.tablespace.map .text
  | .defaultTablespace => o.defaultTablespace.map .bool
  | f => Attributes.get? o.attributes f

end Table

namespace Column

def get? (o : Column) : Field → Option Value
  | .name => o.name.map .text
  | .relation => o.relation.map fun t => .object (.table t)
  | .type => o.dataType.map .dataType
  | .nullable => o.nullable.map .bool
  | .defaultValue => o.defaultValue
  | .remarks => o.remarks.map .text
  | .order => o.order.map fun n => .number (.int n)
  | .computed => o.computed.map .bool
  | .descending => o.descending.map .bool
  | .autoIncrementInformation => o.autoIncrement.map .autoIncrement
  | f => Attributes.get? o.attributes f

end Column

namespace Index

def get? (o : Index) : Field → Option Value
  | .name => o.name.map .text
  | .table => o.table.map fun t => .object (.table t)
  | .schema => o.schema.map fun s => .object (.schema s)
  | .columns => some (.ofColumns o.columns)
  | .unique => o.unique.map .bool
  | .clustered => o.clustered.map .bool
  | f => Attributes.get? o.attributes f

end Index

namespace PrimaryKey

def get? (o : PrimaryKey) : Field → Option Value
  | .name => o.name.map .text
  | .table => o.table.map fun t => .object (.table t)
  | .columns => some (.ofColumns o.columns)
  | .backingIndex => o.backingIndex.map fun i => .object (.index i)
  | f => Attributes.get? o.attributes f

end PrimaryKey

namespace ForeignKey

def get? (o : ForeignKey) : Field → Option Value
  | .name => o.name.map .text
  | .foreignKeyTable => o.foreignTable.map fun t => .object (.table t)
  | .foreignKeyColumns => some (.ofColumns o.foreignColumns)
  | .primaryKeyTable => o.primaryTable.map fun t => .object (.table t)
  | .primaryKeyColumns => some (.ofColumns o.primaryColumns)
  | .updateRule => o.updateRule.map .text
  | .deleteRule => o.deleteRule.map .text
  | .deferrable => o.deferrable.map .bool
  | .initiallyDeferred => o.initiallyDeferred.map .bool
  | .validate => o.validate.map .bool
  | .backingIndex => o.backingIndex.map fun i => .object (.index i)
  | f => Attributes.get? o.attributes f

end ForeignKey

namespace UniqueConstraint

def get? (o : UniqueConstraint) : Field → Option Value
  | .name => o.name.map .text
  | .table => o.table.map fun t => .object (.table t)
  | .schema => o.schema.map fun s => .object (.schema s)
  | .columns => some (.ofColumns o.columns)
  | .deferrable => o.deferrable.map .bool
  | .initiallyDeferred => o.initiallyDeferred.map .bool
  | .disabled => o.disabled.map .bool
  | .clustered => o.clustered.map .bool
  | .backingIndex => o.backingIndex.map fun i => .object (.index i)
  | f => Attributes.get? o.attributes f

end UniqueConstraint

/-- The fields that every object of the kind has. -/
def Kind.fields : Kind → List Field
  | .catalog => [.name, .default]
  | .schema => [.name, .catalog, .default]
  | .table => [.name, .schema, .remarks, .tablespace, .defaultTablespace]
  | .column =>
    [.name, .relation, .type, .nullable, .defaultValue, .remarks, .order, .computed,
     .descending, .autoIncrementInformation]
  | .index => [.name, .table, .schema, .columns, .unique, .clustered]
  | .primaryKey => [.name, .table, .columns, .backingIndex]
  | .foreignKey =>
    [.name, .foreignKeyTable, .foreignKeyColumns, .primaryKeyTable, .primaryKeyColumns,
     .updateRule, .deleteRule, .deferrable, .initiallyDeferred, .validate, .backingIndex]
  | .uniqueConstraint =>
    [.name, .table, .schema, .columns, .deferrable, .initiallyDeferred, .disabled,
     .clustered, .backingIndex]

namespace Object

/-- The value of a field; none when it is unset or no field of the object. -/
def get? : Object → Field → Option Value
  | catalog o => o.get?
  | schema o => o.get?
  | table o => o.get?
  | column o => o.get?
  | index o => o.get?
  | primaryKey o => o.get?
  | foreignKey o => o.get?
  | uniqueConstraint o => o.get?

/-- The declared fields, then the custom ones. -/
def fields (o : Object) : List Field := o.kind.fields ++ o.attributes.map fun a => .custom a.1

end Object

end SchemaDelta

import SchemaDelta.DataType
import SchemaDelta.Field
import SchemaDelta.Kind
import SchemaDelta.Number

/-!
# Schema objects

Objects of eight kinds, linked to the objects they belong to. Every object carries a
tag that tells its instance apart from all others, so that two objects are equal
exactly when they are one instance: an object that several others link to is the same
value in each of them. Links lead from a kind to kinds of lower level only.

Besides its own parts an object may have custom attributes, in key order, whose
values may again be objects.
-/

namespace SchemaDelta

/-- The origin of an instance: an entry of a numbered source, or a column that only a column list
of such an entry mentions. -/
inductive Tag where
  | entry (origin : Nat) (kind : Kind) (position : Nat)
  | listed (origin : Nat) (owner : Kind) (position list slot : Nat)
  deriving DecidableEq

mutual

/-- The value of an attribute. -/
inductive Value where
  | text (s : String)
  | bool (b : Bool)
  | number (n : Number)
  | dataType (t : DataType)
  | autoIncrement (a : AutoIncrement)
  | object (o : Object)
  | list (items : List Value)

structure Catalog where
  tag : Tag
  name : Option String
  /-- The catalog that a connection uses when none is named. -/
  isDefault : Bool
  attributes : List (String × Value)

structure Schema where
  tag : Tag
  name : Option String
  catalog : Option Catalog
  /-- The schema that a connection uses when none is named. -/
  isDefault : Bool
  attributes : List (String × Value)

structure Table where
  tag : Tag
  name : Option String
  schema : Option Schema
  remarks : Option String
  tablespace : Option String
  /-- Set when the table lives in the default tablespace. -/
  defaultTablespace : Option Bool
  attributes : List (String × Value)

/-- A column of a table, or an expression in the column list of an index. -/
structure Column where
  tag : Tag
  name : Option String
  relation : Option Table
  dataType : Option DataType
  nullable : Option Bool
  defaultValue : Option Value
  remarks : Option String
  order : Option Int
  computed : Option Bool
  descending : Option Bool
  autoIncrement : Option AutoIncrement
  attributes : List (String × Value)

structure Index where
  tag : Tag
  name : Option String
  table : Option Table
  /-- The schema stated for the index itself. -/
  ownSchema : Option Schema
  columns : List Column
  unique : Option Bool
  clustered : Option Bool
  attributes : List (String × Value)

structure PrimaryKey where
  tag : Tag
  name : Option String
  table : Option Table
  columns : List Column
  backingIndex : Option Index
  attributes : List (String × Value)

structure ForeignKey where
  tag : Tag
  name : Option String
  /-- The referring table. -/
  foreignTable : Option Table
  foreignColumns : List Column
  /-- The table referred to. -/
  primaryTable : Option Table
  primaryColumns : List Column
  updateRule : Option String
  deleteRule : Option String
  deferrable : Option Bool
  initiallyDeferred : Option Bool
  validate : Option Bool
  backingIndex : Option Index
  attributes : List (String × Value)

structure UniqueConstraint where
  tag : Tag
  name : Option String
  table : Option Table
  /-- The schema stated for the constraint itself. -/
  ownSchema : Option Schema
  columns : List Column
  deferrable : Option Bool
  initiallyDeferred : Option Bool
  disabled : Option Bool
  clustered : Option Bool
  backingIndex : Option Index
  attributes : List (String × Value)

/-- A schema object of any kind. -/
inductive Object where
  | catalog (o : Catalog)
  | schema (o : Schema)
  | table (o : Table)
  | column (o : Column)
  | index (o : Index)
  | primaryKey (o : PrimaryKey)
  | foreignKey (o : ForeignKey)
  | uniqueConstraint (o : UniqueConstraint)

end

/-- Custom attributes, in ascending key order. -/
abbrev Attributes := List (String × Value)

/-- The name of the catalog that the schema belongs to. -/
def Schema.catalogName (s : Schema) : Option String := s.catalog.bind (·.name)

def Table.inDefaultTablespace (t : Table) : Bool := t.defaultTablespace.getD false

namespace Column

def isComputed (c : Column) : Bool := c.computed.getD false

def isDescending (c : Column) : Bool := c.descending.getD false

/-- An expression in a column list rather than a column of a table. -/
def isVirtual (c : Column) : Bool := c.isComputed || c.isDescending

def countsOnItsOwn (c : Column) : Bool := c.autoIncrement.isSome

/-- The name, empty when there is none. -/
def plainName (c : Column) : String := c.name.getD ""

end Column

/-- The schema stated for the index, else that of its table. -/
def Index.schema (i : Index) : Option Schema := i.ownSchema.or (i.table.bind (·.schema))

/-- The schema stated for the constraint, else that of its table. -/
def UniqueConstraint.schema (u : UniqueConstraint) : Option Schema :=
  u.ownSchema.or (u.table.bind (·.schema))

namespace Object

def kind : Object → Kind
  | catalog _ => .catalog
  | schema _ => .schema
  | table _ => .table
  | column _ => .column
  | index _ => .index
  | primaryKey _ => .primaryKey
  | foreignKey _ => .foreignKey
  | uniqueConstraint _ => .uniqueConstraint

def tag : Object → Tag
  | catalog o => o.tag
  | schema o => o.tag
  | table o => o.tag
  | column o => o.tag
  | index o => o.tag
  | primaryKey o => o.tag
  | foreignKey o => o.tag
  | uniqueConstraint o => o.tag

def name : Object → Option String
  | catalog o => o.name
  | schema o => o.name
  | table o => o.name
  | column o => o.name
  | index o => o.name
  | primaryKey o => o.name
  | foreignKey o => o.name
  | uniqueConstraint o => o.name

def attributes : Object → Attributes
  | catalog o => o.attributes
  | schema o => o.attributes
  | table o => o.attributes
  | column o => o.attributes
  | index o => o.attributes
  | primaryKey o => o.attributes
  | foreignKey o => o.attributes
  | uniqueConstraint o => o.attributes

def catalog? : Object → Option Catalog
  | catalog o => some o
  | _ => none

def schema? : Object → Option Schema
  | schema o => some o
  | _ => none

def table? : Object → Option Table
  | table o => some o
  | _ => none

def column? : Object → Option Column
  | column o => some o
  | _ => none

def index? : Object → Option Index
  | index o => some o
  | _ => none

def primaryKey? : Object → Option PrimaryKey
  | primaryKey o => some o
  | _ => none

def foreignKey? : Object → Option ForeignKey
  | foreignKey o => some o
  | _ => none

def uniqueConstraint? : Object → Option UniqueConstraint
  | uniqueConstraint o => some o
  | _ => none

/-- The name by which an object is reported: tables with their schema, columns with their table. -/
def display : Object → String
  | column c =>
    match c.relation.bind (·.name) with
    | some owner => s!"{owner}.{c.plainName}"
    | none => c.plainName
  | table t =>
    match t.name, t.schema.bind (·.name) with
    | some plain, some owner => s!"{owner}.{plain}"
    | some plain, none => plain
    | none, _ => "(unnamed table)"
  | o => o.name.getD s!"(unnamed {o.kind.name})"

end Object

namespace Value

/-- The label of the value's type in messages. -/
def typeName : Value → String
  | text _ => "text"
  | bool _ => "bool"
  | number _ => "number"
  | dataType _ => "dataType"
  | autoIncrement _ => "autoIncrement"
  | object _ => "object"
  | list _ => "list"

def text? : Value → Option String
  | text s => some s
  | _ => none

def bool? : Value → Option Bool
  | bool b => some b
  | _ => none

def list? : Value → Option (List Value)
  | list items => some items
  | _ => none

def isList : Value → Bool
  | list _ => true
  | _ => false

/-- Values of one type, whatever they hold. -/
def sameType (a b : Value) : Bool := a.typeName == b.typeName

/-- The values of a column list. -/
def ofColumns (columns : List Column) : Value := list (columns.map fun c => object (.column c))

mutual

/-- The written form; items of a list are set apart by commas. -/
def display : Value → String
  | text s => s
  | bool b => if b then "true" else "false"
  | number n => n.text
  | dataType t => t.text
  | autoIncrement a => a.text
  | object o => o.display
  | list items => ", ".intercalate (displayAll items)

def displayAll : List Value → List String
  | [] => []
  | v :: rest => v.display :: displayAll rest

end

end Value

end SchemaDelta

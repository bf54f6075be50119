import SchemaDelta.Rule

/-!
# Indexes and unique constraints

Both kinds are the same on one table when their names are, and when a name is missing
or different, when their column lists are. Without both tables only names, the numbers
of columns and the schemas are known.
-/

namespace SchemaDelta.Rule

/-- What an index or a unique constraint is told apart by. -/
structure ColumnGroup where
  object : Object
  table : Option SchemaDelta.Table
  schema : Option SchemaDelta.Schema
  columns : List SchemaDelta.Column

namespace ColumnGroup

/-- Whether both have a schema and these are not the same. -/
def inOtherSchema (s : Scope) (a b : ColumnGroup) : Except CompareError Bool :=
  match a.schema, b.schema with
  | some x, some y => (s.linked.same (some (.schema x)) (some (.schema y))).map (!·)
  | _, _ => .ok false

/-- Column lists that are pairwise the same. -/
def columnsSame (s : Scope) :
    List SchemaDelta.Column → List SchemaDelta.Column → Except CompareError Bool
  | a :: as, b :: bs => do
    if ← s.linked.same (some (.column a)) (some (.column b)) then columnsSame s as bs
    else return false
  | _, _ => .ok true

/-- Told apart by names alone. -/
def sameByName (s : Scope) (a b : ColumnGroup) : Except CompareError Bool :=
  if !a.columns.isEmpty && !b.columns.isEmpty && a.columns.length != b.columns.length then
    .ok false
  else if namesMatch s.dialect a.object b.object then (inOtherSchema s a b).map (!·)
  else .ok false

/-- Told apart on one table. -/
def sameOnTable (s : Scope) (a b : ColumnGroup) : Except CompareError Bool :=
  let match? := namesMatch s.dialect a.object b.object
  if a.object.name.isSome && b.object.name.isSome && match? then .ok true
  else if a.columns.isEmpty || b.columns.isEmpty then .ok match?
  else if a.columns.length != b.columns.length then .ok false
  else columnsSame s a.columns b.columns

def same (s : Scope) (a b : ColumnGroup) : Except CompareError Bool :=
  match a.table, b.table with
  | some x, some y => do
    if ← s.linked.same (some (.table x)) (some (.table y)) then
      if ← inOtherSchema s a b then return false
      else sameOnTable s a b
    else return false
  | _, _ => sameByName s a b

/-- The name, and the keys of the table. -/
def keys (s : Scope) (name : Option String) (table : Option SchemaDelta.Table) :
    Except CompareError Keys := do
  let own := (name.map Text.lower).toList
  match table with
  | none => return some own
  | some t => return some (own ++ ((← s.linked.keys (.table t)).getD []))

end ColumnGroup

namespace Index

def ruleName : String := "index"

def group (o : Object) (i : SchemaDelta.Index) : ColumnGroup := ⟨o, i.table, i.schema, i.columns⟩

def keys (s : Scope) (o : Object) : Except CompareError Keys := do
  let i ← expect ruleName Object.index? o
  ColumnGroup.keys s i.name i.table

def same (s : Scope) (a b : Object) : Except CompareError Bool := do
  let (x, y) ← expectBoth ruleName Object.index? a b
  ColumnGroup.same s (group a x) (group b y)

def differences (s : Scope) (a b : Object) (exclude : List Field) :
    Except CompareError Ledger := do
  let _ ← expectBoth ruleName Object.index? a b
  let l ← s.rest.differences (some a) (some b) (exclude ++ [.name, .columns])
  l.compare .columns a b Criterion.columnNames

end Index

def index : Rule :=
  { name := Index.ruleName
    priority := onlyFor .index
    keys := Index.keys
    same := Index.same
    differences := Index.differences }

namespace UniqueConstraint

def ruleName : String := "uniqueConstraint"

/-- The columns, each put on the table of the constraint: sources do not always link them to it. -/
def linkedColumns (u : SchemaDelta.UniqueConstraint) : List SchemaDelta.Column :=
  u.columns.map fun c => { c with relation := u.table }

def group (o : Object) (u : SchemaDelta.UniqueConstraint) : ColumnGroup :=
  ⟨o, u.table, u.schema, linkedColumns u⟩

def keys (s : Scope) (o : Object) : Except CompareError Keys := do
  let u ← expect ruleName Object.uniqueConstraint? o
  ColumnGroup.keys s u.name u.table

def same (s : Scope) (a b : Object) : Except CompareError Bool := do
  let (x, y) ← expectBoth ruleName Object.uniqueConstraint? a b
  ColumnGroup.same s (group a x) (group b y)

def differences (s : Scope) (a b : Object) (exclude : List Field) :
    Except CompareError Ledger := do
  let _ ← expectBoth ruleName Object.uniqueConstraint? a b
  let l ← s.rest.differences (some a) (some b) (exclude ++ [.name, .columns, .backingIndex])
  let l ← l.compare .columns a b Criterion.columnNames
  l.compare .backingIndex a b
    (Criterion.standard fun x y => s.linked.same (some x) (some y))

end UniqueConstraint

def uniqueConstraint : Rule :=
  { name := UniqueConstraint.ruleName
    priority := onlyFor .uniqueConstraint
    keys := UniqueConstraint.keys
    same := UniqueConstraint.same
    differences := UniqueConstraint.differences }

end SchemaDelta.Rule

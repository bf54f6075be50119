import SchemaDelta.Rule

/-!
# Primary keys

A table has one primary key, so primary keys on named tables are the same when their
tables are. Without both tables they go by their names, and a blank name tells nothing.
-/

namespace SchemaDelta.Rule.PrimaryKey

def ruleName : String := "primaryKey"

/-- The table, if it has a name. -/
def tableWithName (t : Option SchemaDelta.Table) : Option SchemaDelta.Table :=
  t.filter fun t => t.name.isSome

def keys (s : Scope) (o : Object) : Except CompareError Keys := do
  let k ← expect ruleName Object.primaryKey? o
  match k.name, tableWithName k.table with
  | none, _ =>
    match k.table with
    | some t => s.linked.keys (.table t)
    | none => return none
  | some name, none => return some [Text.lower name]
  | some name, some t => return some [Text.lower name, Text.lower (t.name.getD "")]

/-- The trimmed name in lower case, if anything is left of it. -/
def foldedName (name : Option String) : Option String :=
  ((name.map Text.trim).filter fun n => n != "").map Text.lower

def same (s : Scope) (a b : Object) : Except CompareError Bool := do
  let (x, y) ← expectBoth ruleName Object.primaryKey? a b
  match tableWithName x.table, tableWithName y.table with
  | some t, some u => s.linked.same (some (.table t)) (some (.table u))
  | _, _ =>
    match foldedName x.name, foldedName y.name with
    | some m, some n => return m == n
    | _, _ => return false

def differences (s : Scope) (a b : Object) (exclude : List Field) :
    Except CompareError Ledger := do
  let _ ← expectBoth ruleName Object.primaryKey? a b
  let l ← s.rest.differences (some a) (some b) (exclude ++ [.name, .backingIndex, .columns])
  l.compare .columns a b Criterion.columnNames

end PrimaryKey

def primaryKey : Rule :=
  { name := PrimaryKey.ruleName
    priority := onlyFor .primaryKey
    keys := PrimaryKey.keys
    same := PrimaryKey.same
    differences := PrimaryKey.differences }

end SchemaDelta.Rule

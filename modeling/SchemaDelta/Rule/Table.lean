import SchemaDelta.Rule

/-!
# Tables

Tables are the same when their names and their schemas are. Where a table is stored is
no difference between two tables that both live in the default place.
-/

namespace SchemaDelta.Rule.Table

def ruleName : String := "table"

def keys (s : Scope) (o : Object) : Except CompareError Keys := do
  let _ ← expect ruleName Object.table? o
  s.rest.keys o

def same (s : Scope) (a b : Object) : Except CompareError Bool := do
  let (x, y) ← expectBoth ruleName Object.table? a b
  if namesMatch s.dialect a b then
    s.linked.same (x.schema.map .schema) (y.schema.map .schema)
  else return false

def differences (s : Scope) (a b : Object) (exclude : List Field) :
    Except CompareError Ledger := do
  let (x, y) ← expectBoth ruleName Object.table? a b
  let l ← s.rest.differences (some a) (some b) (exclude ++ [.name, .schema])
  let l ← l.compare .name a b (Criterion.byName .table s.dialect)
  let l := if x.inDefaultTablespace && y.inDefaultTablespace then l.withdraw .tablespace else l
  return l.withdraw .defaultTablespace

end Table

def table : Rule :=
  { name := Table.ruleName
    priority := onlyFor .table
    keys := Table.keys
    same := Table.same
    differences := Table.differences }

end SchemaDelta.Rule

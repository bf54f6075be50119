import SchemaDelta.Rule

/-!
# Foreign keys

Foreign keys are told apart by what they link: with all tables known, two are the same
when they join the same columns of the same tables. Otherwise they go by their names,
within the referring table where that is known.
-/

namespace SchemaDelta.Rule.ForeignKey

def ruleName : String := "foreignKey"

/-- The names of some columns, joined by commas. -/
def nameList (columns : List SchemaDelta.Column) : String :=
  ",".intercalate (columns.map (·.plainName))

/-- Whether both tables are known. -/
def isResolved (k : SchemaDelta.ForeignKey) : Bool :=
  k.foreignTable.isSome && k.primaryTable.isSome

def keys (s : Scope) (o : Object) : Except CompareError Keys := do
  let k ← expect ruleName Object.foreignKey? o
  match k.name, k.foreignTable.bind (·.name) with
  | none, _ =>
    match k.foreignTable with
    | some t => s.linked.keys (.table t)
    | none => return none
  | some name, none => return some [Text.lower name]
  | some name, some table => return some [Text.lower name, Text.lower table]

/-- Told apart by names, and by the referring tables if both are known and named. -/
def sameByName (s : Scope) (x y : SchemaDelta.ForeignKey) : Except CompareError Bool := do
  let named (k : SchemaDelta.ForeignKey) := k.foreignTable.filter fun t => t.name.isSome
  let tables ← match named x, named y with
    | some t, some u => s.linked.same (some (.table t)) (some (.table u))
    | _, _ => pure true
  if tables then
    match x.name, y.name with
    | some m, some n => return s.dialect.namesEqual m n
    | _, _ => return false
  else return false

/-- Told apart by columns and tables. -/
def sameByLink (s : Scope) (x y : SchemaDelta.ForeignKey) : Except CompareError Bool := do
  if s.dialect.namesEqual (nameList x.foreignColumns) (nameList y.foreignColumns) &&
      s.dialect.namesEqual (nameList x.primaryColumns) (nameList y.primaryColumns) then
    if ← s.linked.same (x.foreignTable.map .table) (y.foreignTable.map .table) then
      s.linked.same (x.primaryTable.map .table) (y.primaryTable.map .table)
    else return false
  else return false

def same (s : Scope) (a b : Object) : Except CompareError Bool := do
  let (x, y) ← expectBoth ruleName Object.foreignKey? a b
  if isResolved x && isResolved y then sameByLink s x y else sameByName s x y

/-- The fields that the rule itself accounts for. -/
def handled : List Field :=
  [.name, .backingIndex, .foreignKeyColumns, .primaryKeyColumns, .foreignKeyTable,
   .primaryKeyTable]

def differences (s : Scope) (a b : Object) (exclude : List Field) :
    Except CompareError Ledger := do
  let _ ← expectBoth ruleName Object.foreignKey? a b
  let byColumn := Criterion.byName .column s.dialect
  let byTable := Criterion.byName .table s.dialect
  let l ← s.rest.differences (some a) (some b) (exclude ++ handled)
  let l ← l.compare .foreignKeyColumns a b byColumn
  let l ← l.compare .primaryKeyColumns a b byColumn
  let l ← l.compare .foreignKeyTable a b byTable
  l.compare .primaryKeyTable a b byTable

end ForeignKey

def foreignKey : Rule :=
  { name := ForeignKey.ruleName
    priority := onlyFor .foreignKey
    keys := ForeignKey.keys
    same := ForeignKey.same
    differences := ForeignKey.differences }

end SchemaDelta.Rule

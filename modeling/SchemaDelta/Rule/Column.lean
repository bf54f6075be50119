import SchemaDelta.Rule

/-!
# Columns

Columns are the same when their names and their tables are, and when both or neither
are expressions of one sort. Start and step of a column that counts on its own differ
between environments as a matter of course; only whether it counts is reported.

In Postgres a serial column shows as the integer type it stands for once it exists, so
that such a pair of types is no difference between two counting columns.
-/

namespace SchemaDelta.Rule.Column

def ruleName : String := "column"

/-- Name, table and sort of the column in one text, in lower case. -/
def key (c : SchemaDelta.Column) : String :=
  let owner := match c.relation.bind (·.name) with
    | some t => ":" ++ t
    | none => ""
  let computed := if c.isComputed then ":computed" else ""
  let descending := if c.isDescending then ":descending" else ""
  Text.lower (c.plainName ++ owner ++ computed ++ descending)

def keys (_ : Scope) (o : Object) : Except CompareError Keys := do
  let c ← expect ruleName Object.column? o
  return some [key c]

def same (s : Scope) (a b : Object) : Except CompareError Bool := do
  let (x, y) ← expectBoth ruleName Object.column? a b
  if namesMatch s.dialect a b then
    if ← s.linked.same (x.relation.map .table) (y.relation.map .table) then
      return x.isComputed == y.isComputed && x.isDescending == y.isDescending
    else return false
  else return false

/-- The fields that the rule itself accounts for. -/
def handled (p : Policy) : List Field :=
  [.name, .type, .autoIncrementInformation] ++ (if p.columnOrder then [] else [.order])

def differences (s : Scope) (a b : Object) (exclude : List Field) :
    Except CompareError Ledger := do
  let (x, y) ← expectBoth ruleName Object.column? a b
  let byName := Criterion.byName .column s.dialect
  let l ← s.rest.differences (some a) (some b) (exclude ++ handled s.policy)
  let l ← l.compare .name a b byName
  let l ← l.compare .type a b byName
  if x.countsOnItsOwn != y.countsOnItsOwn &&
      !s.policy.isSuppressed .column .autoIncrementInformation then
    return l.enter .autoIncrement (some (.bool x.countsOnItsOwn))
      (some (.bool y.countsOnItsOwn)) none
  else return l

/-- The serial types and the integer types they stand for. -/
def serialTypes : List (String × String) :=
  [("bigserial", "int8"), ("serial", "int4"), ("smallserial", "int2")]

/-- Type names that are equal up to case, or a serial type and its integer type. -/
def interchangeable (a b : String) : Bool :=
  let a := Text.lower a
  let b := Text.lower b
  a == b || serialTypes.contains (a, b) || serialTypes.contains (b, a)

/-- Whether a difference in type is one that counting columns have as a matter of course. -/
def serialColumns (x y : SchemaDelta.Column) : Bool :=
  x.countsOnItsOwn && y.countsOnItsOwn &&
    match x.dataType, y.dataType with
    | some t, some u => interchangeable t.name u.name
    | _, _ => false

end Column

def column : Rule :=
  { name := Column.ruleName
    priority := onlyFor .column
    keys := Column.keys
    same := Column.same
    differences := Column.differences }

namespace PostgresColumn

def ruleName : String := "postgresColumn"

def differences (s : Scope) (a b : Object) (exclude : List Field) :
    Except CompareError Ledger := do
  let (x, y) ← expectBoth ruleName Object.column? a b
  let l ← s.rest.differences (some a) (some b) exclude
  return if Column.serialColumns x y then l.withdraw .type else l

end PostgresColumn

/-- Refines the differences of columns in Postgres and leaves all else to the rest of the chain. -/
def postgresColumn : Rule :=
  { name := PostgresColumn.ruleName
    priority := fun k d =>
      if k == .column && d.family == .postgres then .database else .notApplicable
    keys := fun s o => s.rest.keys o
    same := fun s a b => s.rest.same (some a) (some b)
    differences := PostgresColumn.differences }

end SchemaDelta.Rule

import SchemaDelta.Rule

/-!
# Schemas

Schemas are the same when their names are, an unnamed one going by the default name,
when an alias leads from one to the other, or when their standard forms agree. In a
dialect without schemas they go by the name of their catalog. Where catalogs take part
in telling objects apart, those of the two schemas must be the same first.
-/

namespace SchemaDelta.Rule.Schema

def ruleName : String := "schema"

/-- The name that a schema goes by in the dialect. -/
def namespaceName (d : Dialect) (s : SchemaDelta.Schema) : Option String :=
  if d.hasSchemas then s.name
  else if d.hasCatalogs then s.catalogName
  else none

/-- The name, or the default one of the dialect. -/
def nameOrDefault (d : Dialect) (name : Option String) : Option String :=
  name.or
    (if d.hasSchemas then d.defaultSchema
     else if d.hasCatalogs then d.defaultCatalog
     else none)

/-- Names that are present and equal, in the dialect's case. -/
def isNamed (d : Dialect) (candidate name : Option String) : Bool :=
  match candidate, name with
  | some c, some n => if d.nameCase == .asWritten then c == n else Text.sameIgnoringCase c n
  | _, _ => false

/-- The other name of a pair when `name` is one of them, else the name itself. -/
def exchange (d : Dialect) (name first second : Option String) : Option String :=
  if isNamed d first name then second
  else if isNamed d second name then first
  else name

/-- Whether an alias leads from one name to the other, exchanging the first or both. -/
def aliased (d : Dialect) (this that : Option String) (a : Alias) : Bool :=
  let comparison := aliasName d a.comparison
  let reference := aliasName d a.reference
  let this' := exchange d this comparison reference
  containersAgree d this' that ||
    containersAgree d this' (exchange d that reference comparison)

/-- The schema name in standard form. -/
def standardName (d : Dialect) (s : SchemaDelta.Schema) : Option String :=
  ((Container.mk s.catalogName s.name).standardize d).schema

/-- Whether two schemas are the same, catalogs apart. -/
def sameSchema (d : Dialect) (p : Policy) (a b : SchemaDelta.Schema) : Bool :=
  let this := namespaceName d a
  let that := namespaceName d b
  containersAgree d this that ||
    (let this := nameOrDefault d this
     let that := nameOrDefault d that
     containersAgree d this that || p.aliases.any (aliased d this that)) ||
    containersAgree d (standardName d a) (standardName d b)

def keys (_ : Scope) (o : Object) : Except CompareError Keys := do
  let _ ← expect ruleName Object.schema? o
  return none

def same (s : Scope) (a b : Object) : Except CompareError Bool := do
  let (a, b) ← expectBoth ruleName Object.schema? a b
  let catalogs ←
    if s.policy.includeCatalog then
      s.linked.same (a.catalog.map .catalog) (b.catalog.map .catalog)
    else pure true
  return catalogs && sameSchema s.dialect s.policy a b

def differences (s : Scope) (a b : Object) (_ : List Field) : Except CompareError Ledger := do
  let _ ← expectBoth ruleName Object.schema? a b
  (Ledger.new s.policy .schema).compare .name a b (Criterion.byName .schema s.dialect)

end Schema

def schema : Rule :=
  { name := Schema.ruleName
    priority := onlyFor .schema
    keys := Schema.keys
    same := Schema.same
    differences := Schema.differences }

end SchemaDelta.Rule

import SchemaDelta.Rule

/-!
# Catalogs

Catalogs are the same when their names are, when both are the default one, or when an
alias leads from one to the other. Unless catalogs take part in telling objects apart,
a default catalog counts as unnamed.
-/

namespace SchemaDelta.Rule.Catalog

def ruleName : String := "catalog"

/-- The name that a catalog is compared under. -/
def effectiveName (p : Policy) (c : SchemaDelta.Catalog) : Option String :=
  if !p.includeCatalog && c.isDefault then none else c.name

/-- Names equal up to case and blanks around them; a missing name is empty. -/
def trimmedSame (a b : Option String) : Bool :=
  Text.sameIgnoringCase ((a.map Text.trim).getD "") ((b.map Text.trim).getD "")

/-- The other name of a pair when `name` is one of them, else the name itself. -/
def exchange (first second name : Option String) : Option String :=
  if presentAndSame first name then second
  else if presentAndSame second name then first
  else name

/-- Whether an alias leads from one name to the other, exchanging the first or both. -/
def aliased (d : Dialect) (this that : Option String) (a : Alias) : Bool :=
  let comparison := aliasName d a.comparison
  let reference := aliasName d a.reference
  let this' := exchange comparison reference this
  trimmedSame this' that || trimmedSame this' (exchange comparison reference that)

/-- The catalog name in standard form. -/
def standardName (d : Dialect) (name : Option String) : Option String :=
  ((Container.mk name none).standardize d).catalog

def sameCatalog (d : Dialect) (p : Policy) (a b : SchemaDelta.Catalog) : Bool :=
  if !d.hasCatalogs then true
  else
    let thisName := effectiveName p a
    let thatName := effectiveName p b
    let that := standardName d thatName
    match standardName d thisName with
    | none => that.isNone
    | some this =>
      containersAgree d thisName thatName || p.aliases.any (aliased d (some this) that)

def keys (_ : Scope) (o : Object) : Except CompareError Keys := do
  let _ ← expect ruleName Object.catalog? o
  return none

def same (s : Scope) (a b : Object) : Except CompareError Bool := do
  let (a, b) ← expectBoth ruleName Object.catalog? a b
  return sameCatalog s.dialect s.policy a b

def differences (s : Scope) (a b : Object) (_ : List Field) : Except CompareError Ledger := do
  let _ ← expectBoth ruleName Object.catalog? a b
  (Ledger.new s.policy .catalog).compare .name a b (Criterion.byName .catalog s.dialect)

end Catalog

def catalog : Rule :=
  { name := Catalog.ruleName
    priority := onlyFor .catalog
    keys := Catalog.keys
    same := Catalog.same
    differences := Catalog.differences }

end SchemaDelta.Rule

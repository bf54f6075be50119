import SchemaDelta.Rule
import SchemaDelta.Snapshot

/-!
# Findings

What a run found: objects that only the reference has, objects that only the comparison
has, and pairs that differ. Columns that stand for expressions are never missing, and a
pair of containers that differ in nothing but their names has not changed unless
catalogs take part in telling objects apart.
-/

namespace SchemaDelta

/-- A text of both snapshots. -/
structure Sides where
  reference : Option String
  comparison : Option String
  deriving DecidableEq

def Sides.areEqual (s : Sides) : Bool := s.reference == s.comparison

/-- A pair that differs. -/
structure ChangedPair where
  reference : Object
  comparison : Object
  ledger : Ledger

structure Findings where
  productName : Sides
  productVersion : Sides
  /-- The kinds that were compared, in rank order. -/
  kinds : List Kind
  includeCatalog : Bool
  missing : List Object
  unexpected : List Object
  changed : List ChangedPair

namespace Findings

/-- Nothing found yet between two snapshots. -/
def start (reference comparison : Snapshot) (p : Policy) : Findings :=
  { productName := ⟨reference.productName, comparison.productName⟩
    productVersion := ⟨reference.productVersion, comparison.productVersion⟩
    kinds := p.kinds
    includeCatalog := p.includeCatalog
    missing := []
    unexpected := []
    changed := [] }

def standsForExpression : Object → Bool
  | .column c => c.isVirtual
  | _ => false

/-- Whether a pair with these differences counts as changed. -/
def counts (f : Findings) (reference : Object) (l : Ledger) : Bool :=
  let container := reference.kind == .catalog || reference.kind == .schema
  !l.isEmpty && !(container && !f.includeCatalog && l.fields.all fun g => g == .name)

def addMissing (f : Findings) (o : Object) : Findings :=
  if standsForExpression o then f else { f with missing := f.missing ++ [o] }

def addUnexpected (f : Findings) (o : Object) : Findings :=
  { f with unexpected := f.unexpected ++ [o] }

def addChanged (f : Findings) (pair : ChangedPair) : Findings :=
  if f.counts pair.reference pair.ledger then { f with changed := f.changed ++ [pair] } else f

/-- Nothing is missing, unexpected or changed. -/
def areEqual (f : Findings) : Bool :=
  f.missing.isEmpty && f.unexpected.isEmpty && f.changed.isEmpty

def missingOf (f : Findings) (k : Kind) : List Object := f.missing.filter fun o => o.kind == k

def unexpectedOf (f : Findings) (k : Kind) : List Object :=
  f.unexpected.filter fun o => o.kind == k

def changedOf (f : Findings) (k : Kind) : List ChangedPair :=
  f.changed.filter fun c => c.reference.kind == k

/-- Sorted by an order on objects; elements that the order does not tell apart stay as they were. -/
def sortBy {α : Type} (key : α → Object) (order : Object → Object → Ordering) (xs : List α) :
    List α :=
  xs.mergeSort fun a b => order (key a) (key b) != .gt

/-- By the names under which objects are reported. -/
def displayOrder (a b : Object) : Ordering := compare a.display b.display

/-- The first element that is judged the same as an example. -/
def firstAlike {α : Type} (j : Judge) (key : α → Object) (ofExample : Object) :
    List α → Except CompareError (Option α)
  | [] => .ok none
  | x :: rest => do
    if ← j.same (some (key x)) (some ofExample) then return some x
    else firstAlike j key ofExample rest

def missing? (f : Findings) (j : Judge) (like : Object) : Except CompareError (Option Object) :=
  firstAlike j id like (f.missingOf like.kind)

def unexpected? (f : Findings) (j : Judge) (like : Object) :
    Except CompareError (Option Object) :=
  firstAlike j id like (f.unexpectedOf like.kind)

/-- The changed pair whose reference side is judged the same as an example. -/
def changed? (f : Findings) (j : Judge) (like : Object) :
    Except CompareError (Option ChangedPair) :=
  firstAlike j (·.reference) like (f.changedOf like.kind)

end Findings

end SchemaDelta

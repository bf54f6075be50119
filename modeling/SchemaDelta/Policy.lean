import SchemaDelta.Container
import SchemaDelta.Field

/-!
# Comparison policy

What a run compares, what it leaves out, and which containers stand for each other.
-/

namespace SchemaDelta

structure Policy where
  /-- The kinds compared, as a set in rank order. -/
  kinds : List Kind
  /-- Fields that are not reported, for each kind. -/
  suppressed : List (Kind × Field)
  aliases : List Alias
  /-- Whether catalogs take part in telling objects apart. -/
  includeCatalog : Bool
  /-- Whether the positions of columns are compared. -/
  columnOrder : Bool
  deriving DecidableEq

namespace Policy

/-- The policy assumed when nothing is configured: everything is compared. -/
def standard : Policy :=
  { kinds := Kind.ranked, suppressed := [], aliases := [], includeCatalog := false,
    columnOrder := false }

/-- The set of some kinds, in rank order. -/
def kindSet (kinds : List Kind) : List Kind := Kind.ranked.filter kinds.contains

/-- The kinds compared, containers first. -/
def orderedKinds (p : Policy) : List Kind := Kind.all.filter p.kinds.contains

/-- The suppressed fields of a kind. -/
def suppressedFields (p : Policy) (k : Kind) : List Field :=
  (p.suppressed.filter fun s => s.1 == k).map (·.2)

def isSuppressed (p : Policy) (k : Kind) (f : Field) : Bool := p.suppressed.contains (k, f)

end Policy

end SchemaDelta

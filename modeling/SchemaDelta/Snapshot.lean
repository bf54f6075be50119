import SchemaDelta.Object

/-!
# Snapshots

One side of a comparison: the objects of a database with their links, in the order in
which they were captured.
-/

namespace SchemaDelta

structure Snapshot where
  productName : Option String
  productVersion : Option String
  objects : List Object

namespace Snapshot

def empty : Snapshot := ⟨none, none, []⟩

/-- Add an object behind all others. -/
def add (s : Snapshot) (o : Object) : Snapshot := { s with objects := s.objects ++ [o] }

/-- The objects of a kind, in order. -/
def ofKind (s : Snapshot) (k : Kind) : List Object := s.objects.filter fun o => o.kind == k

/-- The kinds that occur, containers first. -/
def kinds (s : Snapshot) : List Kind := Kind.all.filter fun k => !(s.ofKind k).isEmpty

end Snapshot

end SchemaDelta

import SchemaDelta.Rule
import Std.Data.HashMap

/-!
# Buckets

The comparison objects of a kind, filed under their keys. An object without keys is
filed apart and is a candidate for every other; an object that has keys meets those
that share one of them. Candidates are listed in the order of the snapshot.
-/

namespace SchemaDelta

/-- Positions filed under keys. -/
structure Buckets where
  byKey : Std.HashMap String (List Nat)
  /-- Positions of the objects without keys. -/
  unfiled : List Nat
  /-- The number of objects. -/
  size : Nat

namespace Buckets

def empty : Buckets := ⟨∅, [], 0⟩

/-- No keys at all tell as little as unknown ones. -/
def usable (keys : Keys) : Keys := keys.filter fun ks => !ks.isEmpty

/-- File the next object under its keys. -/
def file (b : Buckets) (keys : Keys) : Buckets :=
  match usable keys with
  | none => { b with unfiled := b.size :: b.unfiled, size := b.size + 1 }
  | some ks =>
    { b with
      byKey := ks.foldl (fun m k => m.insert k (b.size :: m.getD k [])) b.byKey
      size := b.size + 1 }

def ofKeys (all : List Keys) : Buckets := all.foldl file empty

/-- The positions worth testing against an object with some keys, in order. -/
def candidates (b : Buckets) (keys : Keys) : List Nat :=
  match usable keys with
  | none => List.range b.size
  | some ks =>
    Keyed.keySet ((ks.flatMap fun k => (b.byKey.getD k []).reverse) ++ b.unfiled.reverse)

end Buckets

end SchemaDelta

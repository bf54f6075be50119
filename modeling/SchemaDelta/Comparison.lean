import SchemaDelta.Buckets
import SchemaDelta.Findings

/-!
# Comparing snapshots

For every compared kind the reference objects are taken in order, and each is paired
with the first candidate that is still free and judged the same. What is left over on
either side is missing or unexpected; what is paired and differs has changed.
-/

namespace SchemaDelta.Comparison

/-- What became of a reference object. -/
inductive Outcome where
  | unpaired (reference : Object)
  | paired (reference comparison : Object) (position : Nat) (ledger : Ledger)

/-- The position that an outcome takes up. -/
def Outcome.position? : Outcome → Option Nat
  | unpaired _ => none
  | paired _ _ position _ => some position

/-- The first of some positions that is free and holds an object judged the same. -/
def firstFree? (j : Judge) (objects : Array Object) (taken : List Nat) (reference : Object) :
    List Nat → Except CompareError (Option (Nat × Object))
  | [] => .ok none
  | position :: rest =>
    match objects[position]? with
    | none => firstFree? j objects taken reference rest
    | some candidate => do
      if taken.contains position then firstFree? j objects taken reference rest
      else if ← j.same (some reference) (some candidate) then return some (position, candidate)
      else firstFree? j objects taken reference rest

/-- Pair the reference objects in order. -/
def pairAll (j : Judge) (objects : Array Object) (buckets : Buckets) (taken : List Nat) :
    List Object → Except CompareError (List Outcome)
  | [] => .ok []
  | reference :: rest => do
    let keys ← j.keys reference
    match ← firstFree? j objects taken reference (buckets.candidates keys) with
    | none => return .unpaired reference :: (← pairAll j objects buckets taken rest)
    | some (position, candidate) =>
      let ledger ← j.differences (some reference) (some candidate) []
      return .paired reference candidate position ledger ::
        (← pairAll j objects buckets (position :: taken) rest)

def Outcome.record (f : Findings) : Outcome → Findings
  | unpaired reference => f.addMissing reference
  | paired reference comparison _ ledger => f.addChanged ⟨reference, comparison, ledger⟩

/-- The objects whose positions no outcome takes up, in order. -/
def leftOver (outcomes : List Outcome) (objects : List Object) : List Object :=
  let taken := outcomes.filterMap (·.position?)
  (objects.zipIdx.filter fun o => !taken.contains o.2).map (·.1)

/-- Compare the objects of one kind. -/
def findingsOfKind (j : Judge) (reference comparison : Snapshot) (f : Findings) (k : Kind) :
    Except CompareError Findings := do
  let objects := comparison.ofKind k
  let keys ← objects.mapM j.keys
  let outcomes ← pairAll j objects.toArray (Buckets.ofKeys keys) [] (reference.ofKind k)
  let f := outcomes.foldl Outcome.record f
  return (leftOver outcomes objects).foldl Findings.addUnexpected f

end Comparison

/-- Compare two snapshots. -/
def compareSnapshots (j : Judge) (p : Policy) (reference comparison : Snapshot) :
    Except CompareError Findings :=
  p.orderedKinds.foldlM (Comparison.findingsOfKind j reference comparison)
    (Findings.start reference comparison p)

end SchemaDelta

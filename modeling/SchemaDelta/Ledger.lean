import SchemaDelta.Criterion
import SchemaDelta.Object.Attribute
import SchemaDelta.Policy

/-!
# Ledgers of differences

A ledger holds the differences of one pair of objects, at most one for each field, in
field order. Entering a difference again replaces it. Comparing an attribute enters a
difference unless the field is suppressed.
-/

namespace SchemaDelta

/-- The two values of a field, and a message in place of the usual one. -/
structure Change where
  reference : Option Value
  comparison : Option Value
  message : Option String

/-- A field that differs. -/
structure Difference where
  field : Field
  change : Change

namespace Difference

def valueText (v : Option Value) : String :=
  match v with
  | some v => v.display
  | none => "null"

/-- What is said about the difference. -/
def text (d : Difference) : String :=
  match d.change.message with
  | some message => message
  | none =>
    let before := valueText d.change.reference
    let after := valueText d.change.comparison
    s!"{d.field.text} changed from '{before}' to '{after}'"

end Difference

/-- A list of one item faces a bare value of the item's type: the item counts for the list. -/
def unwrap (v other : Option Value) : Option Value :=
  match v, other with
  | some (.list [item]), some o => if !o.isList && item.sameType o then some item else v
  | _, _ => v

/-- The differences of one pair. -/
structure Ledger where
  /-- Fields that comparing leaves out. -/
  suppressed : List Field
  /-- The differences, in field order. -/
  entries : List (Field × Change)

namespace Ledger

def empty : Ledger := ⟨[], []⟩

/-- A ledger that leaves out what the policy suppresses for the kind. -/
def new (p : Policy) (k : Kind) : Ledger := ⟨p.suppressedFields k, []⟩

def differences (l : Ledger) : List Difference := l.entries.map fun e => ⟨e.1, e.2⟩

def fields (l : Ledger) : List Field := l.entries.map (·.1)

def get? (l : Ledger) (f : Field) : Option Change := l.entries.lookup f

def contains (l : Ledger) (f : Field) : Bool := (l.get? f).isSome

def isEmpty (l : Ledger) : Bool := l.entries.isEmpty

/-- How many fields differ. -/
def size (l : Ledger) : Nat := l.entries.length

/-- Enter a difference. -/
def enter (l : Ledger) (f : Field) (reference comparison : Option Value)
    (message : Option String) : Ledger :=
  { l with entries := Keyed.insert f ⟨reference, comparison, message⟩ l.entries }

/-- Take a difference out. -/
def withdraw (l : Ledger) (f : Field) : Ledger :=
  { l with entries := l.entries.filter fun e => e.1 != f }

/-- Take a difference out, and tell whether there was one. -/
def remove (l : Ledger) (f : Field) : Bool × Ledger := (l.contains f, l.withdraw f)

/-- The two values of a field, as they are compared. -/
def facing (reference comparison : Object) (f : Field) : Option Value × Option Value :=
  let r := reference.get? f
  let c := comparison.get? f
  let r := unwrap r c
  (r, unwrap c r)

/-- The difference of a field, if its values do not agree and it is not suppressed. -/
def change? (l : Ledger) (f : Field) (reference comparison : Object) (test : Criterion) :
    Except CompareError (Option Change) :=
  if l.suppressed.contains f then .ok none
  else
    let (r, c) := facing reference comparison f
    match Criterion.onOptional test r c with
    | .ok agree => .ok (if agree then none else some ⟨r, c, none⟩)
    | .error e => .error (e.onField f)

/-- Compare a field and enter its difference, if there is one. -/
def compare (l : Ledger) (f : Field) (reference comparison : Object) (test : Criterion) :
    Except CompareError Ledger := do
  match ← l.change? f reference comparison test with
  | none => return l
  | some c => return l.enter f c.reference c.comparison c.message

end Ledger

end SchemaDelta

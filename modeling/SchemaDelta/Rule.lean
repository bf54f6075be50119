import SchemaDelta.Ledger

/-!
# Rules

A rule tells for objects of some kinds when two of them are the same, what keys they
can be found under, and how two that are the same differ. The rules that apply to a
kind form a chain, the most specific first. A rule sees the rest of its chain and the
judge of linked objects, and may leave to either what it does not decide itself.

A judge answers the same three questions for any objects. A chain judges two objects
of different kinds to be different and an instance to be the same as itself, before
its first rule is asked; the end of a chain has no objection to anything.
-/

namespace SchemaDelta

/-- How specific a rule is for a kind. -/
inductive Priority where
  | notApplicable
  | default
  | type
  | database
  deriving DecidableEq

def Priority.value : Priority → Int
  | notApplicable => -1
  | default => 1
  | type => 5
  | database => 10

/-- The keys an object can be found under; none stands for any. -/
abbrev Keys := Option (List String)

structure Judge where
  /-- Whether two objects are the same; two absent ones are. -/
  same : Option Object → Option Object → Except CompareError Bool
  /-- The keys of an object. Two objects that are the same should have a key in common. -/
  keys : Object → Except CompareError Keys
  /-- The differences of two objects, apart from some fields. -/
  differences : Option Object → Option Object → List Field → Except CompareError Ledger

/-- What a rule can consult. -/
structure Scope where
  dialect : Dialect
  policy : Policy
  /-- Judges the objects that an object is linked to. -/
  linked : Judge
  /-- The rest of the chain. -/
  rest : Judge

structure Rule where
  name : String
  priority : Kind → Dialect → Priority
  keys : Scope → Object → Except CompareError Keys
  same : Scope → Object → Object → Except CompareError Bool
  differences : Scope → Object → Object → List Field → Except CompareError Ledger

/-- Two objects that are present, of one kind and different instances are left to `decideSame`. -/
def samePresent (decideSame : Object → Object → Except CompareError Bool)
    (a b : Option Object) : Except CompareError Bool :=
  match a, b with
  | none, none => .ok true
  | some a, some b =>
    if a.kind != b.kind then .ok false
    else if a.sameInstance b then .ok true
    else decideSame a b
  | _, _ => .ok false

/-- Two objects that are present are left to `find`; an absent one is a difference by itself. -/
def differencesPresent (p : Policy)
    (find : Object → Object → List Field → Except CompareError Ledger)
    (a b : Option Object) (exclude : List Field) : Except CompareError Ledger :=
  match a, b with
  | none, none => .ok .empty
  | none, some b =>
    .ok ((Ledger.new p b.kind).enter .this none none (some "Reference value was null"))
  | some a, none =>
    .ok ((Ledger.new p a.kind).enter .this none none (some "Compared value was null"))
  | some a, some b => find a b exclude

/-- The judge that some rules make as a chain. -/
def chain (d : Dialect) (p : Policy) (linked : Judge) : List Rule → Judge
  | [] =>
    { same := samePresent fun _ _ => .ok true
      keys := fun _ => .ok none
      differences := differencesPresent p fun a _ _ => .ok (Ledger.new p a.kind) }
  | r :: rest =>
    let scope : Scope := ⟨d, p, linked, chain d p linked rest⟩
    { same := samePresent (r.same scope)
      keys := r.keys scope
      differences := differencesPresent p (r.differences scope) }

namespace Rule

/-- The part of an object that a rule is made for. -/
def expect {α : Type} (rule : String) (cast : Object → Option α) (o : Object) :
    Except CompareError α :=
  match cast o with
  | some a => .ok a
  | none => .error (.unsupportedKind rule o.kind)

/-- The parts of two objects that a rule is made for; the first object is tried first. -/
def expectBoth {α : Type} (rule : String) (cast : Object → Option α) (a b : Object) :
    Except CompareError (α × α) := do
  let x ← expect rule cast a
  let y ← expect rule cast b
  return (x, y)

/-- A rule for one kind only. -/
def onlyFor (kind : Kind) : Kind → Dialect → Priority := fun k _ =>
  if k == kind then .type else .notApplicable

/-- Names agree in the dialect's spelling; two objects without a name agree. -/
def namesMatch (d : Dialect) (a b : Object) : Bool :=
  Criterion.namesAgree d (a.name.map d.correctName) (b.name.map d.correctName)

/-- Names of containers agree; a blank name counts as none, and case as the dialect has it. -/
def containersAgree (d : Dialect) (a b : Option String) : Bool :=
  let a := (a.map Text.trim).getD ""
  let b := (b.map Text.trim).getD ""
  if d.nameCase == .asWritten then a == b else Text.sameIgnoringCase a b

/-- The name that a container goes by in the dialect. -/
def aliasName (d : Dialect) (c : Container) : Option String :=
  if d.hasSchemas then c.schema
  else if d.hasCatalogs then c.catalog.or c.schema
  else none

/-- Two names that are present and equal up to case. -/
def presentAndSame (a b : Option String) : Bool :=
  match a, b with
  | some a, some b => Text.sameIgnoringCase a b
  | _, _ => false

end Rule

end SchemaDelta

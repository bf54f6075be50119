import SchemaDelta.Rule

/-!
# The generic rule

The last rule of every chain. Objects are the same by name, and differ in whatever
attribute does not agree; the criterion of an attribute follows from its values.
-/

namespace SchemaDelta.Rule.Generic

def keys (_ : Scope) (o : Object) : Except CompareError Keys :=
  .ok (some [match o.name with
    | some name => Text.lower name
    | none => "null"])

def same (s : Scope) (a b : Object) : Except CompareError Bool := .ok (namesMatch s.dialect a b)

/-- The criterion for two values of one attribute, by the first of them that is set. -/
def criterion (s : Scope) (reference comparison : Option Value) : Criterion :=
  let standard := Criterion.standard fun a b => s.linked.same (some a) (some b)
  match reference.or comparison with
  | some (.object o) => Criterion.byName o.kind s.dialect
  | some (.dataType _) => Criterion.dataType
  | some (.autoIncrement _) => Criterion.byText false
  | some (.list _) =>
    match reference, comparison with
    | some (.list _), some (.list _) => Criterion.ordered standard
    | _, _ => standard
  | _ => standard

/-- The fields that are compared: all that either object has, in field order. Containers belong to
what an object is, not to how it differs. -/
def comparedFields (a b : Object) (exclude : List Field) : List Field :=
  (Keyed.keySet (a.fields ++ b.fields)).filter fun f =>
    !exclude.contains f && f != .schema && f != .catalog

def differences (s : Scope) (a b : Object) (exclude : List Field) : Except CompareError Ledger :=
  (comparedFields a b exclude).foldlM
    (fun l f => l.compare f a b (criterion s (a.get? f) (b.get? f)))
    (Ledger.new s.policy a.kind)

end Generic

/-- The fallback for every kind. -/
def generic : Rule :=
  { name := "default"
    priority := fun _ _ => .default
    keys := Generic.keys
    same := Generic.same
    differences := Generic.differences }

end SchemaDelta.Rule

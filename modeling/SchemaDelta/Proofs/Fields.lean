import SchemaDelta.Object.Attribute

/-!
# Values of fields

The declared fields have values of one form each, whatever kind of object has them. Only
default values and custom attributes can be anything.

## Main definitions

* `Field.Holds` — the values that a field can have.
-/

namespace SchemaDelta

/-- The values that a field can have. -/
def Field.Holds (v : Value) : Field → Prop
  | .name | .remarks | .tablespace | .updateRule | .deleteRule => ∃ s, v = .text s
  | .default | .defaultTablespace | .nullable | .computed | .descending | .unique | .clustered
  | .deferrable | .initiallyDeferred | .validate | .disabled => ∃ b, v = .bool b
  | .order => ∃ n, v = .number (.int n)
  | .type => ∃ t, v = .dataType t
  | .autoIncrementInformation => ∃ a, v = .autoIncrement a
  | .catalog => ∃ c, v = .object (.catalog c)
  | .schema => ∃ s, v = .object (.schema s)
  | .table | .relation | .foreignKeyTable | .primaryKeyTable => ∃ t, v = .object (.table t)
  | .backingIndex => ∃ i, v = .object (.index i)
  | .columns | .foreignKeyColumns | .primaryKeyColumns => ∃ cs, v = .ofColumns cs
  | .defaultValue | .custom _ => True
  | .this | .autoIncrement => False

/-- Values are left open in default values and custom attributes. -/
def Field.isOpen (f : Field) : Bool := f == .defaultValue || f.isCustom

namespace Object

variable {o : Object} {f : Field} {v : Value}

theorem holds_of_get? (h : o.get? f = some v) : f.Holds v := by
  have linked {α : Type} {x : Option α} {link : α → Value} (hx : x.map link = some v) :
      ∃ a, v = link a := by
    obtain ⟨a, -, ha⟩ := Option.map_eq_some_iff.1 hx
    exact ⟨a, ha.symm⟩
  cases o <;> cases f <;>
    first
    | exact trivial
    | exact linked h
    | exact ⟨_, (Option.some.inj h).symm⟩
    | cases h

/-- Only a column has a type. -/
theorem column_of_get?_type (h : o.get? .type = some v) : o.kind = .column := by
  cases o <;> first | rfl | cases h

/-- What holds of custom attributes and default values holds wherever values are left open. -/
theorem forall_open (o : Object) {P : Value → Prop} (attributes : ∀ a ∈ o.attributes, P a.2)
    (default : ∀ c, o = .column c → ∀ v ∈ c.defaultValue, P v) (left : f.isOpen = true)
    (hv : o.get? f = some v) : P v := by
  have custom {key : String} (hv : o.attributes.lookup key = some v) : P v := by
    obtain ⟨before, after, split, -⟩ := List.lookup_eq_some_iff.1 hv
    exact attributes (key, v) (by simp [split])
  cases f with
  | defaultValue =>
    cases o with
    | column c => exact default c rfl v hv
    | _ => cases hv
  | custom key => cases o <;> exact custom hv
  | _ => cases left

end Object

end SchemaDelta

import SchemaDelta.Proofs.Differences
import SchemaDelta.Proofs.Fields

/-!
# Objects that do not differ

Values are alike when they are one value, objects of one name that are the same, or lists
of such columns. Alike values agree by every criterion that fields are compared by, and two
objects whose values are alike field by field have no differences. Only `nan`, which no
number equals, is not even alike to itself.

## Main definitions

* `Value.Alike` — values that no comparison tells apart.
* `Object.Alike` — objects whose values are alike, field by field.
-/

namespace SchemaDelta

/-! ## Values that agree with themselves -/

theorem Decimal.same_self (x : Decimal) : x.same x = true := by simp [Decimal.same]

theorem Double.same_self (x : Double) : x.same x = (x != .nan) := by
  cases x with
  | nan => rfl
  | infinite => simp [Double.same]
  | finite => simp [Double.same]

theorem Number.equalByValue_self (n : Number) : n.equalByValue n = (n != .float .nan) := by
  unfold equalByValue
  cases hn : n.toDecimal? with
  | some x =>
    have number : (n != .float .nan) = true := by
      rw [bne_iff_ne]
      rintro rfl
      cases hn
    rw [number]
    exact x.same_self
  | none =>
    cases n with
    | float x =>
      have narrow : (Number.float x != .float .nan) = (x != .nan) := by
        rw [Bool.eq_iff_iff, bne_iff_ne, bne_iff_ne, ne_eq, Number.float.injEq]
      rw [narrow]
      exact x.same_self
    | _ => cases hn

namespace Value

mutual

/-- Whether the value, or an item of it, is `nan`. -/
def hasNan : Value → Bool
  | number n => n == .float .nan
  | list items => anyNan items
  | _ => false

def anyNan : List Value → Bool
  | [] => false
  | v :: rest => v.hasNan || anyNan rest

end

end Value

namespace Differences

variable {d : Dialect} {p : Policy} {k : Kind}

mutual

/-- Every value agrees with itself, unless there is a `nan` in it. -/
theorem plain_self : (v : Value) → plain d p v v = .ok (!v.hasNan)
  | .text _ => by simp [plain, Criterion.standard, sameContent, Value.hasNan]
  | .bool _ => by simp [plain, Criterion.standard, sameContent, Value.hasNan]
  | .number n => by simp [plain, Criterion.standard, Number.equalByValue_self, Value.hasNan, bne]
  | .dataType _ => by simp [plain, Criterion.standard, sameContent, Value.hasNan]
  | .autoIncrement _ => by simp [plain, Criterion.standard, sameContent, Value.hasNan]
  | .object _ => by simp [plain, Criterion.standard, Identity.same, Value.hasNan]
  | .list vs => by simpa [plain, Criterion.standard, Value.hasNan] using plain_items_self vs

theorem plain_items_self : (vs : List Value) →
    Criterion.standardItems (fun a b => .ok (Identity.same d p a b)) vs vs = .ok (!Value.anyNan vs)
  | [] => rfl
  | v :: vs => by
    have first := plain_self v
    rw [plain] at first
    rw [Criterion.standardItems, first, Fallible.ok_bind, Value.anyNan]
    cases v.hasNan with
    | true => rfl
    | false => exact plain_items_self vs

end

theorem namesAgree_self (d : Dialect) (name : Option String) :
    Criterion.namesAgree d name name := by
  cases name <;> simp [Criterion.namesAgree, Dialect.namesEqual, Text.sameIgnoringCase]

mutual

theorem byName_self : (v : Value) → Criterion.byName k d v v = .ok true
  | .list vs => by simpa [Criterion.byName] using byNameItems_self vs
  | .text _ | .bool _ | .number _ | .dataType _ | .autoIncrement _ | .object _ => by
    simp [Criterion.byName, namesAgree_self]

theorem byNameItems_self : (vs : List Value) → Criterion.byNameItems k d vs vs = .ok true
  | [] => rfl
  | v :: vs => by
    rw [Criterion.byNameItems, byName_self v, Fallible.ok_bind]
    exact byNameItems_self vs

end

end Differences

/-! ## Alike values -/

/-- Values that no comparison tells apart. -/
inductive Value.Alike (d : Dialect) (p : Policy) : Value → Value → Prop where
  | refl {v : Value} (h : v.hasNan = false) : Alike d p v v
  | object {a b : Object} (name : a.name = b.name) (kind : a.kind = b.kind)
      (same : Identity.same d p a b = true) : Alike d p (.object a) (.object b)
  | columns {as bs : List Column}
      (h : List.Forall₂ (fun a b => a.name = b.name ∧
        Identity.same d p (.column a) (.column b) = true) as bs) :
      Alike d p (.ofColumns as) (.ofColumns bs)

/-- No value of the object is `nan`. -/
def Object.WithoutNan (o : Object) : Prop := ∀ f v, o.get? f = some v → v.hasNan = false

/-- Objects of one kind whose values are alike, field by field; containers are no matter. -/
structure Object.Alike (d : Dialect) (p : Policy) (a b : Object) : Prop where
  kind : a.kind = b.kind
  values : ∀ f, f ≠ .schema → f ≠ .catalog → Option.Rel (Value.Alike d p) (a.get? f) (b.get? f)

theorem Value.hasNan_ofColumns (cs : List Column) : (Value.ofColumns cs).hasNan = false := by
  have items : Value.anyNan (cs.map fun c => .object (.column c)) = false := by
    induction cs with
    | nil => rfl
    | cons c cs ih => exact ih
  exact items

/-- Only where values are left open one can be `nan`. -/
theorem Field.Holds.hasNan {f : Field} {v : Value} (h : f.Holds v) (closed : f.isOpen = false) :
    v.hasNan = false := by
  cases f with
  | defaultValue | custom => cases closed
  | this | autoIncrement => exact h.elim
  | columns | foreignKeyColumns | primaryKeyColumns =>
    obtain ⟨cs, rfl⟩ := h
    exact Value.hasNan_ofColumns cs
  | _ =>
    obtain ⟨x, rfl⟩ := h
    rfl

theorem Object.withoutNan {o : Object} (attributes : ∀ a ∈ o.attributes, a.2.hasNan = false)
    (default : ∀ c, o = .column c → ∀ v ∈ c.defaultValue, v.hasNan = false) : o.WithoutNan := by
  intro f v hv
  by_cases left : f.isOpen = true
  · exact o.forall_open attributes default left hv
  · exact (Object.holds_of_get? hv).hasNan (by simpa using left)

namespace Differences

open Ledger

variable {v w : Value} {a b : Object} {f : Field} {test : Criterion}

theorem plain_of_alike (h : v.Alike d p w) : plain d p v w = .ok true := by
  cases h with
  | refl h => rw [plain_self, h, Bool.not_false]
  | object _ _ same => simp [plain, Criterion.standard, same]
  | @columns as bs h =>
    have items : Criterion.standardItems (fun a b => .ok (Identity.same d p a b))
        (as.map fun c => .object (.column c)) (bs.map fun c => .object (.column c)) = .ok true := by
      induction h with
      | nil => rfl
      | cons h _ ih => simpa [Criterion.standardItems, Criterion.standard, h.2] using ih
    simp [plain, Value.ofColumns, Criterion.standard, h.length_eq, items]

theorem byName_of_alike (h : v.Alike d p w) : Criterion.byName k d v w = .ok true := by
  cases h with
  | refl => exact byName_self v
  | object name => simp [Criterion.byName, Criterion.shownName, name, namesAgree_self]
  | @columns as bs h =>
    have items : Criterion.byNameItems k d (as.map fun c => .object (.column c))
        (bs.map fun c => .object (.column c)) = .ok true := by
      induction h with
      | nil => rfl
      | cons h _ ih =>
        simpa [Criterion.byNameItems, Criterion.byName, Criterion.shownName, Object.name, h.1,
          namesAgree_self] using ih
    simp [Value.ofColumns, Criterion.byName, h.length_eq, items]

theorem columnNames_ofColumns {as bs : List Column} (h : as.map (·.name) = bs.map (·.name)) :
    Criterion.columnNames (.ofColumns as) (.ofColumns bs) = .ok true := by
  have length : as.length = bs.length := by simpa using congrArg List.length h
  have items : Criterion.columnNamesPairwise (as.map fun c => .object (.column c))
      (bs.map fun c => .object (.column c)) = .ok true := by
    induction as generalizing bs with
    | nil => rfl
    | cons a as ih =>
      cases bs with
      | nil => rfl
      | cons b bs =>
        obtain ⟨hname, h⟩ := List.cons.inj h
        simpa [Criterion.columnNamesPairwise, Criterion.columnName, Object.name, hname,
          Text.sameIgnoringCase] using ih h (by simpa using length)
  simp [Value.ofColumns, Criterion.columnNames, length, items]

theorem columnNames_of_alike {as : List Column} (h : Value.Alike d p (.ofColumns as) w) :
    Criterion.columnNames (.ofColumns as) w = .ok true := by
  generalize hv : Value.ofColumns as = v at h
  cases h with
  | refl => exact hv ▸ columnNames_ofColumns rfl
  | object => cases hv
  | @columns as' bs h =>
    clear hv
    refine columnNames_ofColumns ?_
    induction h with
    | nil => rfl
    | cons h _ ih => rw [List.map_cons, List.map_cons, h.1, ih]

theorem byValues_of_alike (h : v.Alike d p w) : byValues d p (some v) (some w) v w = .ok true := by
  cases v with
  | object => exact byName_of_alike h
  | dataType t =>
    cases h
    simp [byValues, Criterion.dataType, Criterion.compatibleTypes, Text.sameIgnoringCase]
  | autoIncrement t =>
    cases h
    simp [byValues, Criterion.byText, Text.sameIgnoringCase]
  | _ => exact plain_of_alike h

/-! ## Alike objects -/

theorem isList_eq_of_alike (h : v.Alike d p w) : v.isList = w.isList := by
  cases h <;> rfl

theorem facing_of_rel (h : Option.Rel (Value.Alike d p) (a.get? f) (b.get? f)) :
    facing a b f = (a.get? f, b.get? f) := by
  cases hv : a.get? f <;> cases hw : b.get? f <;> rw [hv, hw] at h <;> cases h
  case none.none.none => rw [facing_eq, hv, hw]; rfl
  case some.some.some h => exact facing_of_isList_eq hv hw (isList_eq_of_alike h)

/-- A criterion that alike values pass lets a field pass whose values are alike or unset. -/
theorem agree?_of_rel (h : Option.Rel (Value.Alike d p) (a.get? f) (b.get? f))
    (pass : ∀ v w, a.get? f = some v → b.get? f = some w → v.Alike d p w → test v w = .ok true) :
    agree? a b f test = .ok true := by
  rw [agree?, facing_of_rel h]
  generalize hv : a.get? f = v at *
  generalize hw : b.get? f = w at *
  cases h with
  | none => rfl
  | some h => exact pass _ _ rfl rfl h

theorem closed_of_ownCriteria (h : (f, test) ∈ ownCriteria d p k) : f.isOpen = false := by
  cases k <;> simp [ownCriteria] at h <;> grind [Field.isOpen, Field.isCustom]

theorem not_container_of_ownCriteria (h : (f, test) ∈ ownCriteria d p k) :
    f ≠ .schema ∧ f ≠ .catalog := by
  cases k <;> simp [ownCriteria] at h <;> grind

theorem pass_of_ownCriteria (h : (f, test) ∈ ownCriteria d p k) (hv : a.get? f = some v)
    (alike : v.Alike d p w) : test v w = .ok true := by
  cases own_of_mem h with
  | columns =>
    obtain ⟨as, rfl⟩ := Object.holds_of_get? hv
    exact columnNames_of_alike alike
  | backingIndex => exact plain_of_alike alike
  | named => exact byName_of_alike alike

theorem agree?_of_alike (h : a.Alike d p b) (ht : (f, test) ∈ tests d p a b) :
    agree? a b f test = .ok true := by
  rcases of_mem_tests ht with ⟨-, -, generic⟩ | own
  · obtain ⟨⟨-, -, hschema, hcatalog⟩, rfl⟩ := mem_genericTests.1 generic
    rw [agree?_generic]
    refine agree?_of_rel (h.values f hschema hcatalog) fun v w hv hw alike => ?_
    rw [hv, hw]
    exact byValues_of_alike alike
  · obtain ⟨hschema, hcatalog⟩ := not_container_of_ownCriteria own
    exact agree?_of_rel (h.values f hschema hcatalog) fun v w hv _ alike =>
      pass_of_ownCriteria own hv alike

theorem adjust_new (h : a.Alike d p b) :
    adjust d p a b (Ledger.new p a.kind) = Ledger.new p a.kind := by
  have withdraw (f : Field) : (Ledger.new p a.kind).withdraw f = Ledger.new p a.kind := rfl
  cases a with
  | table x =>
    cases b <;> try cases h.kind
    simp [adjust, adjustOwn, withdraw]
  | column x =>
    cases b <;> try cases h.kind
    next y =>
    have counting : x.countsOnItsOwn = y.countsOnItsOwn := by
      have rel := h.values .autoIncrementInformation (by decide) (by decide)
      change Option.Rel _ (x.autoIncrement.map _) (y.autoIncrement.map _) at rel
      unfold Column.countsOnItsOwn
      cases hx : x.autoIncrement <;> cases hy : y.autoIncrement <;> simp_all
    simp [adjust, adjustOwn, withdraw, counting]
  | _ => cases b <;> rfl

/-- Alike objects have no differences. -/
theorem differences_of_alike (h : a.Alike d p b) :
    ((Rulebook.builtin d).judge d p).differences (some a) (some b) [] =
      .ok (Ledger.new p a.kind) := by
  rw [differences_eq h.kind, compareAll_of_agree fun t ht => agree?_of_alike h ht, Fallible.map_ok,
    adjust_new h]

end Differences

end SchemaDelta

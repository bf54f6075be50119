import SchemaDelta.Proofs.Data
import SchemaDelta.Proofs.Symmetry

/-!
# Criteria that take no side

A criterion is told which value stands in the reference and which in the comparison, and the
rule that chooses it looks at the reference first. Where values are of one form neither
matters: what is said of two values is said of them from the other side as well, as far as the
objects in them are the same from either side. Declared fields have values of one form each,
and so has data.

## Main definitions

* `Value.belowCatalogs` — values without a catalog, of which identity takes no side.
* `Value.form` — what a criterion is chosen by.
* `Differences.EvenHanded` — a field of which the same is said from either side.
* `Differences.EvenlyFilled` — values of one form, with objects that are the same from either
  side wherever identity is asked for.
-/

namespace SchemaDelta

/-! ## Numbers -/

/-- Signed magnitudes that are scaled to one unit are compared the same from either side. -/
theorem scaled_comm {s t : Bool} {m n x y : Nat} (hx : 0 < x) (hy : 0 < y) :
    (m * x == n * y && (s == t || m == 0)) = (n * y == m * x && (t == s || n == 0)) := by
  have zero (h : m * x = n * y) : m = 0 ↔ n = 0 := by
    constructor
    · rintro rfl
      rw [Nat.zero_mul] at h
      exact (Nat.mul_eq_zero.1 h.symm).resolve_right hy.ne'
    · rintro rfl
      rw [Nat.zero_mul] at h
      exact (Nat.mul_eq_zero.1 h).resolve_right hx.ne'
  rw [Bool.eq_iff_iff]
  simp only [Bool.and_eq_true, Bool.or_eq_true, beq_iff_eq]
  grind

theorem Decimal.same_comm (x y : Decimal) : x.same y = y.same x :=
  scaled_comm (Nat.pow_pos (by decide)) (Nat.pow_pos (by decide))

theorem Double.same_comm (x y : Double) : x.same y = y.same x := by
  cases x <;> cases y <;> try rfl
  next s t => exact Bool.beq_comm
  next s m e t n f =>
    simp only [Double.same, Int.min_comm f e]
    exact scaled_comm (Nat.pow_pos (by decide)) (Nat.pow_pos (by decide))

theorem Number.equalByValue_comm (m n : Number) : m.equalByValue n = n.equalByValue m := by
  unfold equalByValue
  cases m.toDecimal? <;> cases n.toDecimal? <;>
    first | exact Decimal.same_comm _ _ | exact Double.same_comm _ _

/-! ## Values -/

namespace Value

mutual

/-- No catalog is in it. -/
def belowCatalogs : Value → Bool
  | object o => o.kind != .catalog
  | list items => allBelowCatalogs items
  | _ => true

def allBelowCatalogs : List Value → Bool
  | [] => true
  | v :: rest => v.belowCatalogs && allBelowCatalogs rest

end

mutual

theorem belowCatalogs_of_isData : (v : Value) → v.isData = true → v.belowCatalogs = true
  | .text _, _ | .bool _, _ | .number _, _ => rfl
  | .list items, h => allBelowCatalogs_of_allData items h

theorem allBelowCatalogs_of_allData :
    (vs : List Value) → allData vs = true → allBelowCatalogs vs = true
  | [], _ => rfl
  | v :: rest, h => by
    obtain ⟨hv, hrest⟩ := Bool.and_eq_true_iff.1 h
    exact Bool.and_eq_true_iff.2
      ⟨belowCatalogs_of_isData v hv, allBelowCatalogs_of_allData rest hrest⟩

end

mutual

/-- The objects of a value, itself or in lists. -/
def objects : Value → List Object
  | object o => [o]
  | list items => allObjects items
  | _ => []

def allObjects : List Value → List Object
  | [] => []
  | v :: rest => v.objects ++ allObjects rest

end

mutual

theorem kind_ne_catalog_of_mem_objects {o : Object} : (v : Value) → v.belowCatalogs = true →
    o ∈ v.objects → o.kind ≠ .catalog
  | .object x, h, ho => by
    obtain rfl := List.mem_singleton.1 ho
    simpa [belowCatalogs] using h
  | .list items, h, ho => kind_ne_catalog_of_mem_allObjects items h ho

theorem kind_ne_catalog_of_mem_allObjects {o : Object} : (vs : List Value) →
    allBelowCatalogs vs = true → o ∈ allObjects vs → o.kind ≠ .catalog
  | v :: rest, h, ho => by
    obtain ⟨hv, hrest⟩ := Bool.and_eq_true_iff.1 h
    rcases List.mem_append.1 ho with ho | ho
    · exact kind_ne_catalog_of_mem_objects v hv ho
    · exact kind_ne_catalog_of_mem_allObjects rest hrest ho

end

/-- The forms of values by which a criterion is chosen. -/
inductive Form where
  | object
  | dataType
  | autoIncrement
  | content
  deriving DecidableEq

/-- What a criterion is chosen by. -/
def form : Value → Form
  | object _ => .object
  | dataType _ => .dataType
  | autoIncrement _ => .autoIncrement
  | _ => .content

theorem form_of_isData {v : Value} (h : v.isData = true) : v.form = .content := by
  cases v <;> first | rfl | cases h

/-- What is taken out of a list has the objects of the list. -/
theorem objects_of_unwrap {v w : Value} {c : Option Value} (h : unwrap (some w) c = some v) :
    v.objects = w.objects := by
  unfold unwrap at h
  split at h
  · next item o hitem =>
    cases hitem
    split at h
    · cases h
      simp [objects, allObjects]
    · cases h
      rfl
  · cases h
    rfl

end Value

namespace Differences

/-! ## Criteria -/

variable {d : Dialect} {p : Policy} {k : Kind}

mutual

/-- Which value is asked about the other does not matter, as it does not for the objects in
them. -/
theorem plain_comm : (v w : Value) → (∀ a ∈ v.objects, ∀ b ∈ w.objects,
      Identity.same d p a b = Identity.same d p b a) → plain d p v w = plain d p w v
  | .object a, w, h => by
    cases w with
    | object b =>
      have same := h a (List.mem_singleton_self a) b (List.mem_singleton_self b)
      simp only [plain, Criterion.standard, same]
    | _ => rfl
  | .number m, w, _ => by
    cases w with
    | number n => simp only [plain, Criterion.standard, Number.equalByValue_comm m n]
    | _ => rfl
  | .list vs, w, h => by
    cases w with
    | list ws =>
      have items := plain_items_comm vs ws h
      simp only [plain, Criterion.standard, beq_iff_eq, eq_comm (a := vs.length)]
      split
      · exact items
      · rfl
    | _ => rfl
  | .text s, w, _ | .bool s, w, _ | .dataType s, w, _ | .autoIncrement s, w, _ => by
    cases w <;> simp [plain, Criterion.standard, sameContent, Bool.beq_comm]

theorem plain_items_comm : (vs ws : List Value) → (∀ a ∈ Value.allObjects vs,
      ∀ b ∈ Value.allObjects ws, Identity.same d p a b = Identity.same d p b a) →
    Criterion.standardItems (fun a b => .ok (Identity.same d p a b)) vs ws =
      Criterion.standardItems (fun a b => .ok (Identity.same d p a b)) ws vs
  | [], [], _ | [], _ :: _, _ | _ :: _, [], _ => rfl
  | v :: vs, w :: ws, h => by
    have first := plain_comm v w fun a ha b hb =>
      h a (List.mem_append_left _ ha) b (List.mem_append_left _ hb)
    have rest := plain_items_comm vs ws fun a ha b hb =>
      h a (List.mem_append_right _ ha) b (List.mem_append_right _ hb)
    rw [plain] at first
    rw [Criterion.standardItems, Criterion.standardItems, first, rest]

end

mutual

theorem byName_comm : (v w : Value) → Criterion.byName k d v w = Criterion.byName k d w v
  | .list vs, w => by
    cases w with
    | list ws =>
      simp only [Criterion.byName, beq_iff_eq, eq_comm (a := vs.length), byNameItems_comm vs ws]
    | _ => rfl
  | .text _, w | .bool _, w | .number _, w | .dataType _, w | .autoIncrement _, w
  | .object _, w => by
    cases w <;> simp only [Criterion.byName] <;> exact congrArg _ (Criterion.namesAgree_comm _ _)

theorem byNameItems_comm : (vs ws : List Value) →
    Criterion.byNameItems k d vs ws = Criterion.byNameItems k d ws vs
  | [], [] | [], _ :: _ | _ :: _, [] => rfl
  | v :: vs, w :: ws => by
    rw [Criterion.byNameItems, Criterion.byNameItems, byName_comm v w, byNameItems_comm vs ws]

end

theorem columnNames_comm (as bs : List Column) :
    Criterion.columnNames (.ofColumns as) (.ofColumns bs) =
      Criterion.columnNames (.ofColumns bs) (.ofColumns as) := by
  have items : Criterion.columnNamesPairwise (as.map fun c => .object (.column c))
      (bs.map fun c => .object (.column c)) =
      Criterion.columnNamesPairwise (bs.map fun c => .object (.column c))
        (as.map fun c => .object (.column c)) := by
    induction as generalizing bs with
    | nil => cases bs <;> rfl
    | cons a as ih =>
      cases bs with
      | nil => rfl
      | cons b bs =>
        have first := Text.sameIgnoringCase_comm (Text.trim ((Object.column a).name.getD ""))
        simp only [List.map_cons, Criterion.columnNamesPairwise, Criterion.columnName,
          Fallible.ok_bind, ih bs, first]
  simp only [Value.ofColumns, Criterion.columnNames, List.length_map, items, beq_iff_eq,
    eq_comm (a := as.length)]

theorem compatibleTypes_comm (t u : DataType) :
    Criterion.compatibleTypes t u = Criterion.compatibleTypes u t := by
  rw [Criterion.compatibleTypes, Criterion.compatibleTypes, Text.sameIgnoringCase_comm,
    Text.sameIgnoringCase_comm t.text, Bool.and_comm t.hasParameters]

theorem byText_comm (v w : Value) : Criterion.byText false v w = Criterion.byText false w v := by
  rw [Criterion.byText, Criterion.byText, Text.sameIgnoringCase_comm, Bool.beq_comm]

/-! ## Fields -/

variable {a b : Object} {f : Field} {v w : Value} {test : Criterion}

theorem onOptional_comm {test test' : Criterion} {r c : Option Value}
    (h : ∀ v w, r = some v → c = some w → test' w v = test v w) :
    Criterion.onOptional test' c r = Criterion.onOptional test r c := by
  cases r with
  | none => cases c <;> rfl
  | some v =>
    cases c with
    | none => rfl
    | some w => exact h v w rfl rfl

theorem isList_eq_of_holds (hv : f.Holds v) (hw : f.Holds w) (closed : f.isOpen = false) :
    v.isList = w.isList := by
  cases f with
  | defaultValue | custom => cases closed
  | this | autoIncrement => exact hv.elim
  | _ =>
    obtain ⟨x, rfl⟩ := hv
    obtain ⟨y, rfl⟩ := hw
    rfl

/-- The values of a declared field are compared as they are. -/
theorem facing_of_closed (closed : f.isOpen = false) :
    Ledger.facing a b f = (a.get? f, b.get? f) := by
  rw [Ledger.facing_eq]
  cases hr : a.get? f with
  | none =>
    rw [unwrap_none]
    rfl
  | some v =>
    cases hc : b.get? f with
    | none =>
      rw [unwrap_none]
      rfl
    | some w =>
      have lists := isList_eq_of_holds (Object.holds_of_get? hr) (Object.holds_of_get? hc) closed
      rw [unwrap_of_isList_eq lists, unwrap_of_isList_eq lists.symm]

theorem form_eq_of_holds (hv : f.Holds v) (hw : f.Holds w) (closed : f.isOpen = false) :
    v.form = w.form := by
  cases f with
  | defaultValue | custom => cases closed
  | this | autoIncrement => exact hv.elim
  | _ =>
    obtain ⟨x, rfl⟩ := hv
    obtain ⟨y, rfl⟩ := hw
    rfl

/-- Lists that are declared are compared by a criterion of their kind. -/
theorem lookup_ownCriteria_columns
    (hf : f = .columns ∨ f = .foreignKeyColumns ∨ f = .primaryKeyColumns)
    (h : a.get? f = some v) : (ownCriteria d p a.kind).lookup f ≠ none := by
  rcases hf with rfl | rfl | rfl <;> cases a <;> first | exact Option.some_ne_none _ | cases h

/-- Where a declared field is compared by content, there is no object in it. -/
theorem objects_eq_nil_of_closed (generic : (ownCriteria d p a.kind).lookup f = none)
    (h : a.get? f = some v) (closed : f.isOpen = false) (content : v.form = .content) :
    v.objects = [] := by
  have columns := lookup_ownCriteria_columns (d := d) (p := p) (f := f) (h := h)
  have holds := Object.holds_of_get? h
  cases f with
  | defaultValue | custom => cases closed
  | this | autoIncrement => exact holds.elim
  | columns | foreignKeyColumns | primaryKeyColumns => exact absurd generic (columns (by simp))
  | _ =>
    obtain ⟨x, rfl⟩ := holds
    first
    | rfl
    | cases content

theorem byValues_of_content {c : Option Value} (h : v.form = .content) :
    byValues d p (some v) c = plain d p := by
  cases v <;> first | rfl | cases h

/-- Between values of one form it does not matter which one the criterion is chosen by. -/
theorem byValues_comm {v' w' : Value} (form : v.form = w.form)
    (hv : unwrap (some v) (some w) = some v') (hw : unwrap (some w) (some v) = some w')
    (same : v.form = .content → ∀ x ∈ v.objects, ∀ y ∈ w.objects,
      Identity.same d p x y = Identity.same d p y x) :
    byValues d p (some w) (some v) w' v' = byValues d p (some v) (some w) v' w' := by
  cases v with
  | object =>
    cases w <;> cases form
    cases hv
    cases hw
    exact congrArg Except.ok (Criterion.namesAgree_comm _ _)
  | dataType =>
    cases w <;> cases form
    cases hv
    cases hw
    exact congrArg Except.ok (compatibleTypes_comm _ _)
  | autoIncrement =>
    cases w <;> cases form
    cases hv
    cases hw
    exact byText_comm _ _
  | _ =>
    rw [byValues_of_content form.symm, byValues_of_content rfl]
    refine (plain_comm v' w' ?_).symm
    rw [Value.objects_of_unwrap hv, Value.objects_of_unwrap hw]
    exact same rfl

theorem ownCriteria_comm (hv : f.Holds v) (hw : f.Holds w) (h : (f, test) ∈ ownCriteria d p k)
    (same : f = .backingIndex → ∀ x ∈ v.objects, ∀ y ∈ w.objects,
      Identity.same d p x y = Identity.same d p y x) : test w v = test v w := by
  cases own_of_mem h with
  | columns =>
    obtain ⟨as, rfl⟩ := hv
    obtain ⟨bs, rfl⟩ := hw
    exact columnNames_comm _ _
  | backingIndex => exact (plain_comm v w (same rfl)).symm
  | named => exact byName_comm _ _

/-! ## Both sides -/

/-- The objects of a field that are told apart by identity: all in content that is left open, and
the index behind a constraint. Other objects go by name. -/
def identified (f : Field) (v : Value) : List Object :=
  if f.isOpen && v.form == .content || f == .backingIndex then v.objects else []

/-- What is said of a field is said from the other side as well. -/
def EvenHanded (d : Dialect) (p : Policy) (a b : Object) (f : Field) : Prop :=
  Ledger.agree? b a f (criterionOf d p b a f) = Ledger.agree? a b f (criterionOf d p a b f)

instance (d : Dialect) (p : Policy) (a b : Object) (f : Field) :
    Decidable (EvenHanded d p a b f) :=
  inferInstanceAs (Decidable (_ = _))

theorem mem_of_mem_identified {o : Object} (h : o ∈ identified f v) : o ∈ v.objects := by
  unfold identified at h
  split at h
  · exact h
  · cases h

/-- If both objects have values of a field, these are of one form, and the objects in them that
are told apart by identity are so from either side. -/
structure EvenlyFilled (d : Dialect) (p : Policy) (a b : Object) (f : Field) : Prop where
  form : ∀ v w, a.get? f = some v → b.get? f = some w → v.form = w.form
  same_comm : ∀ v w, a.get? f = some v → b.get? f = some w → ∀ x ∈ identified f v,
    ∀ y ∈ identified f w, Identity.same d p x y = Identity.same d p y x

theorem evenHanded_of_evenlyFilled (hkind : a.kind = b.kind) (h : EvenlyFilled d p a b f) :
    EvenHanded d p a b f := by
  rw [EvenHanded, Ledger.agree?, Ledger.agree?, Ledger.facing_eq, Ledger.facing_eq]
  apply onOptional_comm
  intro v w hv hw
  obtain ⟨r, hr⟩ := exists_of_unwrap hv
  obtain ⟨c, hc⟩ := exists_of_unwrap hw
  have form := h.form r c hr hc
  have same := h.same_comm r c hr hc
  have holdsr := Object.holds_of_get? hr
  have holdsc := Object.holds_of_get? hc
  rw [hr, hc] at hv hw
  rw [criterionOf, criterionOf, ← hkind, hr, hc]
  cases own : (ownCriteria d p a.kind).lookup f with
  | none =>
    refine byValues_comm form hv hw fun content => ?_
    cases closed : f.isOpen with
    | true =>
      simpa only [identified, closed, content, ← form, beq_self_eq_true, Bool.and_self,
        Bool.true_or, if_true] using same
    | false =>
      rw [objects_eq_nil_of_closed own hr closed content]
      exact fun x hx => absurd hx List.not_mem_nil
  | some test =>
    have mem := mem_of_lookup_ownCriteria own
    have lists := isList_eq_of_holds holdsr holdsc (closed_of_ownCriteria mem)
    rw [unwrap_of_isList_eq lists, Option.some.injEq] at hv
    rw [unwrap_of_isList_eq lists.symm, Option.some.injEq] at hw
    subst hv hw
    refine ownCriteria_comm holdsr holdsc mem fun backing => ?_
    simpa only [identified, backing, beq_self_eq_true, Bool.or_true, if_true] using same

/-- Of a declared field the same is said from either side, unless it is a backing index. -/
theorem evenHanded_of_closed (hkind : a.kind = b.kind) (closed : f.isOpen = false)
    (hf : f ≠ .backingIndex) : EvenHanded d p a b f := by
  refine evenHanded_of_evenlyFilled hkind ⟨?_, ?_⟩
  · intro v w hv hw
    exact form_eq_of_holds (Object.holds_of_get? hv) (Object.holds_of_get? hw) closed
  · intro v w _ _ x hx
    simp [identified, closed, hf] at hx

/-- Where an object holds data, no catalog is told apart by identity. -/
theorem kind_ne_catalog_of_mem_identified {o : Object} (ha : a.HoldsData) (hv : a.get? f = some v)
    (ho : o ∈ identified f v) : o.kind ≠ .catalog := by
  have mem := mem_of_mem_identified ho
  cases closed : f.isOpen with
  | true =>
    have below := Value.belowCatalogs_of_isData v (ha.isData closed hv)
    exact Value.kind_ne_catalog_of_mem_objects v below mem
  | false =>
    have backing : f = .backingIndex := by
      by_contra hf
      simp [identified, closed, hf] at ho
    subst backing
    obtain ⟨i, rfl⟩ := Object.holds_of_get? hv
    obtain rfl := List.mem_singleton.1 mem
    exact nofun

/-- While catalogs take no part in telling objects apart, data is seen alike from both sides. -/
theorem evenHanded_of_holdsData (hp : p.includeCatalog = false) (hkind : a.kind = b.kind)
    (ha : a.HoldsData) (hb : b.HoldsData) : EvenHanded d p a b f := by
  refine evenHanded_of_evenlyFilled hkind ⟨?_, ?_⟩
  · intro v w hv hw
    cases closed : f.isOpen with
    | true =>
      rw [Value.form_of_isData (ha.isData closed hv), Value.form_of_isData (hb.isData closed hw)]
    | false => exact form_eq_of_holds (Object.holds_of_get? hv) (Object.holds_of_get? hw) closed
  · intro v w hv hw x hx y hy
    exact Identity.same_comm hp (kind_ne_catalog_of_mem_identified ha hv hx)
      (kind_ne_catalog_of_mem_identified hb hw hy)

end Differences

end SchemaDelta

import SchemaDelta.Proofs.Criteria

/-!
# Differences from the other side

The ledger of two objects, seen from the other side, holds the same fields, each with its
values exchanged.

## Main definitions

* `Ledger.exchanged` — the ledger that the other side sees.
-/

namespace SchemaDelta

/-! ## Ledgers -/

/-- The change of the other side. -/
def Change.exchanged (c : Change) : Change := ⟨c.comparison, c.reference, c.message⟩

namespace Ledger

/-- The same fields, each with its values exchanged. -/
def exchanged (l : Ledger) : Ledger :=
  { l with entries := l.entries.map (Prod.map id Change.exchanged) }

variable {a b : Object} {l : Ledger} {f : Field} {test test' : Criterion}

@[simp] theorem exchanged_exchanged (l : Ledger) : l.exchanged.exchanged = l := by
  have twice : Prod.map id Change.exchanged ∘ Prod.map id Change.exchanged =
      (id : Field × Change → Field × Change) := rfl
  simp [exchanged, twice]

@[simp] theorem fields_exchanged (l : Ledger) : l.exchanged.fields = l.fields := by
  simp [fields, exchanged]

@[simp] theorem suppressed_exchanged (l : Ledger) : l.exchanged.suppressed = l.suppressed := rfl

@[simp] theorem isEmpty_exchanged (l : Ledger) : l.exchanged.isEmpty = l.isEmpty := by
  simp [isEmpty, exchanged]

theorem exchanged_new (p : Policy) (k : Kind) : (new p k).exchanged = new p k := rfl

theorem withdraw_exchanged (l : Ledger) (f : Field) :
    l.exchanged.withdraw f = (l.withdraw f).exchanged := by
  simp [withdraw, exchanged, List.filter_map, Function.comp_def]

theorem enter_exchanged (l : Ledger) (f : Field) (r c : Option Value) (message : Option String) :
    l.exchanged.enter f c r message = (l.enter f r c message).exchanged := by
  simp [enter, exchanged, Keyed.map_insert, Change.exchanged]

theorem compare_congr (h : agree? a b f test' = agree? a b f test) :
    l.compare f a b test' = l.compare f a b test := by
  unfold agree? at h
  unfold compare change?
  dsimp only
  rw [h]

/-- Comparing a field from the other side enters the exchanged difference. -/
theorem compare_exchanged (h : f ∉ l.suppressed → agree? b a f test' = agree? a b f test) :
    l.exchanged.compare f b a test' = (l.compare f a b test).map exchanged := by
  unfold compare change?
  rw [facing_comm a b f, suppressed_exchanged]
  split
  · rfl
  · next reported =>
    have h := h fun hf => reported (List.contains_iff_mem.2 hf)
    unfold agree? at h
    rw [facing_comm a b f] at h
    dsimp only [Prod.swap] at h ⊢
    rw [h]
    cases Criterion.onOptional test (facing a b f).1 (facing a b f).2 with
    | error e => rfl
    | ok agree =>
      cases agree with
      | true => rfl
      | false => exact congrArg Except.ok (enter_exchanged ..)

/-- What comparing fields finds depends on what is said of each. -/
theorem compareAll_congr {tests : List (Field × Criterion)} {test : Field → Criterion}
    (h : ∀ t ∈ tests, agree? a b t.1 t.2 = agree? a b t.1 (test t.1)) :
    l.compareAll a b tests = l.compareAll a b ((tests.map (·.1)).map fun f => (f, test f)) := by
  unfold compareAll
  rw [List.foldlM_map, List.foldlM_map]
  exact Fallible.foldlM_congr (fun m t ht => compare_congr (h t ht)) l

theorem compareAll_exchanged {fields : List Field} {test test' : Field → Criterion}
    (h : ∀ f ∈ fields, f ∉ l.suppressed → agree? b a f (test' f) = agree? a b f (test f)) :
    l.exchanged.compareAll b a (fields.map fun f => (f, test' f)) =
      (l.compareAll a b (fields.map fun f => (f, test f))).map exchanged := by
  induction fields generalizing l with
  | nil => rfl
  | cons f fields ih =>
    rw [List.map_cons, List.map_cons, compareAll_cons, compareAll_cons,
      compare_exchanged (h f List.mem_cons_self)]
    cases hm : l.compare f a b (test f) with
    | error e => rfl
    | ok m =>
      refine ih fun g hg reported => h g (List.mem_cons_of_mem _ hg) ?_
      rwa [suppressed_compare hm] at reported

end Ledger

namespace Differences

variable {d : Dialect} {p : Policy} {a b : Object} {l : Ledger} {f : Field}

theorem comparedFields_comm (a b : Object) (exclude : List Field) :
    Rule.Generic.comparedFields b a exclude = Rule.Generic.comparedFields a b exclude := by
  have same : Keyed.keySet (b.fields ++ a.fields) = Keyed.keySet (a.fields ++ b.fields) :=
    Keyed.keySet_congr fun f => by rw [List.mem_append, List.mem_append, or_comm]
  rw [Rule.Generic.comparedFields, Rule.Generic.comparedFields, same]

/-- Which fields are compared does not depend on the sides. -/
theorem map_fst_tests_comm (hkind : a.kind = b.kind) :
    (tests d p b a).map (·.1) = (tests d p a b).map (·.1) := by
  have generic (s : Scope) (exclude : List Field) :
      (genericTests s b a exclude).map (·.1) = (genericTests s a b exclude).map (·.1) := by
    simp only [genericTests, List.map_map, Function.comp_def, List.map_id', comparedFields_comm]
  unfold tests
  rw [hkind]
  cases b.kind <;> simp only [List.map_append, generic]

theorem serialColumns_comm (x y : Column) :
    Rule.Column.serialColumns y x = Rule.Column.serialColumns x y := by
  have names (s t : String) :
      Rule.Column.interchangeable s t = Rule.Column.interchangeable t s := by
    unfold Rule.Column.interchangeable
    dsimp only
    rw [Bool.beq_comm, Bool.or_right_comm]
  unfold Rule.Column.serialColumns
  rw [Bool.and_comm y.countsOnItsOwn]
  cases x.dataType <;> cases y.dataType <;> first | rfl | exact congrArg _ (names _ _)

theorem adjustOwn_exchanged (hkind : a.kind = b.kind) :
    adjustOwn p b a l.exchanged = (adjustOwn p a b l).exchanged := by
  cases a <;> cases b <;> cases hkind <;> try rfl
  next x y =>
    simp only [adjustOwn, Bool.and_comm y.inDefaultTablespace]
    split <;> simp only [Ledger.withdraw_exchanged]
  next x y =>
    simp only [adjustOwn, bne_comm (a := y.countsOnItsOwn)]
    split
    · exact Ledger.enter_exchanged ..
    · rfl

theorem adjust_exchanged (hkind : a.kind = b.kind) :
    adjust d p b a l.exchanged = (adjust d p a b l).exchanged := by
  have own := adjustOwn_exchanged (p := p) (l := l) hkind
  cases a <;> cases b <;> cases hkind <;> try exact own
  next x y =>
    simp only [adjust, serialColumns_comm, own]
    split
    · exact Ledger.withdraw_exchanged ..
    · rfl

/-- The tests of a kind decide as one criterion for each field. -/
theorem compareAll_tests (l : Ledger) (a b : Object) :
    l.compareAll a b (tests d p a b) =
      l.compareAll a b (((tests d p a b).map (·.1)).map fun f => (f, criterionOf d p a b f)) :=
  Ledger.compareAll_congr fun _ ht => agree?_of_mem_tests ht

/-- Where the same is said of each field from either side, the differences of two objects are seen
from the other side. -/
theorem differences_exchanged_of_evenHanded (hkind : a.kind = b.kind)
    (h : ∀ f ∈ (tests d p a b).map (·.1), p.isSuppressed a.kind f = false →
      EvenHanded d p a b f) :
    ((Rulebook.builtin d).judge d p).differences (some b) (some a) [] =
      (((Rulebook.builtin d).judge d p).differences (some a) (some b) []).map Ledger.exchanged := by
  have compared : (Ledger.new p a.kind).compareAll b a (tests d p b a) =
      ((Ledger.new p a.kind).compareAll a b (tests d p a b)).map Ledger.exchanged := by
    rw [compareAll_tests, compareAll_tests, map_fst_tests_comm hkind, ← Ledger.compareAll_exchanged,
      Ledger.exchanged_new]
    intro f tested reported
    rw [Ledger.new, mem_suppressedFields, Bool.not_eq_true] at reported
    exact h f tested reported
  rw [differences_eq hkind, differences_eq hkind.symm, ← hkind, compared, Fallible.map_map,
    Fallible.map_map]
  congr 1
  funext l
  exact adjust_exchanged hkind

/-- The differences of two objects that hold data, seen from the other side. -/
theorem differences_exchanged (hp : p.includeCatalog = false) (hkind : a.kind = b.kind)
    (ha : a.HoldsData) (hb : b.HoldsData) :
    ((Rulebook.builtin d).judge d p).differences (some b) (some a) [] =
      (((Rulebook.builtin d).judge d p).differences (some a) (some b) []).map Ledger.exchanged :=
  differences_exchanged_of_evenHanded hkind fun _ _ _ => evenHanded_of_holdsData hp hkind ha hb

end Differences

end SchemaDelta

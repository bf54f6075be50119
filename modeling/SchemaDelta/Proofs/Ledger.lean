import SchemaDelta.Ledger
import SchemaDelta.Proofs.Fallible
import SchemaDelta.Proofs.Keyed

/-!
# Ledgers of many fields

Comparing some fields, each by a criterion of its own, leaves a ledger that holds what it
held before together with the fields that differ, in field order and each with the values
it was compared by.

## Main definitions

* `Value.OnlyItem` — a list of one item faces a bare value of the item's type.
* `Ledger.Unequal` — two values are unequal by a criterion, case by case.
* `Ledger.compareAll` — compare some fields in turn.
* `Ledger.Differ` — the values of a field do not agree.
-/

namespace SchemaDelta

/-! ## The order of fields -/

namespace Field

theorem ofText_text {f : Field} (h : f.isCustom = false) : ofText f.text = f := by
  cases f with
  | custom => cases h
  | _ => rfl

instance : Std.LawfulEqOrd Field where
  compare_self {f} := Ordering.then_eq_eq.2 ⟨Std.ReflCmp.compare_self, Std.ReflCmp.compare_self⟩
  eq_of_compare {a b} h := by
    obtain ⟨htext, hcustom⟩ := Ordering.then_eq_eq.1 h
    have htext := Std.LawfulEqCmp.eq_of_compare htext
    have hcustom := Std.LawfulEqCmp.eq_of_compare hcustom
    cases ha : a.isCustom with
    | false => rw [← ofText_text ha, htext, ofText_text (hcustom ▸ ha)]
    | true =>
      cases a <;> cases ha
      cases b <;> cases hcustom
      exact congrArg custom htext

instance : Std.TransOrd Field :=
  inferInstanceAs (Std.TransCmp (compareLex (compareOn text) (compareOn isCustom)))

end Field

/-! ## Values that face each other -/

/-- A value is a list of one item, and faces a bare value of the item's type. -/
structure Value.OnlyItem (v w item : Value) : Prop where
  list : v = .list [item]
  bare : w.isList = false
  sameType : item.sameType w = true

section

variable {v w item : Value}

theorem unwrap_of_onlyItem (h : v.OnlyItem w item) : unwrap (some v) (some w) = some item := by
  obtain ⟨rfl, bare, sameType⟩ := h
  simp [unwrap, bare, sameType]

/-- Nothing is taken out of a value, unless it is a list of one item of the other's type. -/
theorem unwrap_of_not_onlyItem (h : ∀ item, ¬v.OnlyItem w item) :
    unwrap (some v) (some w) = some v := by
  unfold unwrap
  split
  · next item o hv hw =>
    cases hv
    cases hw
    rw [if_neg]
    intro counts
    obtain ⟨bare, sameType⟩ := Bool.and_eq_true_iff.1 counts
    exact h item ⟨rfl, by simpa using bare, sameType⟩
  · rfl

/-- Of a list that faces a list nothing is taken out. -/
theorem unwrap_of_isList {v : Option Value} (h : w.isList = true) : unwrap v (some w) = v := by
  unfold unwrap
  split
  · next item o ho =>
    cases ho
    rw [h, Bool.not_true, Bool.false_and, if_neg Bool.false_ne_true]
  · rfl

theorem unwrap_of_not_isList {o : Option Value} (h : v.isList = false) :
    unwrap (some v) o = some v := by
  cases v <;> first | rfl | cases h

theorem unwrap_of_isList_eq (h : v.isList = w.isList) : unwrap (some v) (some w) = some v := by
  cases hw : w.isList with
  | true => exact unwrap_of_isList hw
  | false => exact unwrap_of_not_isList (h.trans hw)

/-- Of a list that faces no value nothing is taken out. -/
theorem unwrap_none (v : Option Value) : unwrap v none = v := by
  unfold unwrap
  split
  · next none => cases none
  · rfl

/-- What is compared comes from a value that is set. -/
theorem exists_of_unwrap {r c : Option Value} (h : unwrap r c = some v) : ∃ w, r = some w := by
  cases r with
  | none => cases h
  | some w => exact ⟨w, rfl⟩

/-- What is taken out of a list faces the other value as the list did. -/
theorem unwrap_unwrap (v w : Option Value) : unwrap w (unwrap v w) = unwrap w v := by
  cases w with
  | none => rfl
  | some w =>
    cases hw : w.isList with
    | true => rw [unwrap_of_isList hw]
    | false => rw [unwrap_of_not_isList hw, unwrap_of_not_isList hw]

end

namespace Ledger

variable {a b : Object} {l l' : Ledger} {f g : Field} {test : Criterion}
  {tests : List (Field × Criterion)}

/-- The change that a field is reported with. -/
def changeOf (a b : Object) (f : Field) : Change :=
  ⟨(facing a b f).1, (facing a b f).2, none⟩

/-- What a criterion says of the values of a field. -/
def agree? (a b : Object) (f : Field) (test : Criterion) : Except CompareError Bool :=
  Criterion.onOptional test (facing a b f).1 (facing a b f).2

/-- The values of a field do not agree by a criterion. -/
def Differ (a b : Object) (f : Field) (test : Criterion) : Prop := agree? a b f test = .ok false

instance (a b : Object) (f : Field) (test : Criterion) : Decidable (Differ a b f test) :=
  inferInstanceAs (Decidable (agree? a b f test = .ok false))

/-- Two values that may be unset are unequal by a criterion. A list of one item that faces a bare
value of the item's type counts as its item. -/
inductive Unequal (test : Criterion) : Option Value → Option Value → Prop where
  | comparisonUnset (v : Value) : Unequal test (some v) none
  | referenceUnset (w : Value) : Unequal test none (some w)
  | asTheyAre {v w : Value} (reference : ∀ item, ¬v.OnlyItem w item)
      (comparison : ∀ item, ¬w.OnlyItem v item) (judged : test v w = .ok false) :
      Unequal test (some v) (some w)
  | referenceItem {v w item : Value} (h : v.OnlyItem w item) (judged : test item w = .ok false) :
      Unequal test (some v) (some w)
  | comparisonItem {v w item : Value} (h : w.OnlyItem v item) (judged : test v item = .ok false) :
      Unequal test (some v) (some w)

/-- Compare some fields in turn. -/
def compareAll (l : Ledger) (a b : Object) (tests : List (Field × Criterion)) :
    Except CompareError Ledger :=
  tests.foldlM (fun l t => l.compare t.1 a b t.2) l

/-- A side is unwrapped for the other, whichever comes first. -/
theorem facing_eq (a b : Object) (f : Field) :
    facing a b f = (unwrap (a.get? f) (b.get? f), unwrap (b.get? f) (a.get? f)) := by
  simp only [facing, unwrap_unwrap]

/-- Values of which both are lists, or neither is, are compared as they are. -/
theorem facing_of_isList_eq {v w : Value} (hv : a.get? f = some v) (hw : b.get? f = some w)
    (h : v.isList = w.isList) : facing a b f = (some v, some w) := by
  rw [facing_eq, hv, hw, unwrap_of_isList_eq h, unwrap_of_isList_eq h.symm]

/-- Values are unequal when what they count as does not agree. -/
theorem unequal_iff {r c : Option Value} :
    Unequal test r c ↔ Criterion.onOptional test (unwrap r c) (unwrap c r) = .ok false := by
  constructor
  · intro h
    cases h with
    | comparisonUnset v =>
      rw [unwrap_none]
      rfl
    | referenceUnset w =>
      rw [unwrap_none]
      rfl
    | asTheyAre reference comparison judged =>
      rwa [unwrap_of_not_onlyItem reference, unwrap_of_not_onlyItem comparison]
    | referenceItem h judged =>
      rwa [unwrap_of_onlyItem h, unwrap_of_not_isList h.bare]
    | comparisonItem h judged =>
      rwa [unwrap_of_onlyItem h, unwrap_of_not_isList h.bare]
  · intro h
    match r, c with
    | none, none => cases h
    | some v, none => exact .comparisonUnset v
    | none, some w => exact .referenceUnset w
    | some v, some w =>
      by_cases reference : ∃ item, v.OnlyItem w item
      · obtain ⟨item, reference⟩ := reference
        rw [unwrap_of_onlyItem reference, unwrap_of_not_isList reference.bare] at h
        exact .referenceItem reference h
      by_cases comparison : ∃ item, w.OnlyItem v item
      · obtain ⟨item, comparison⟩ := comparison
        rw [unwrap_of_onlyItem comparison, unwrap_of_not_isList comparison.bare] at h
        exact .comparisonItem comparison h
      · have reference := not_exists.1 reference
        have comparison := not_exists.1 comparison
        rw [unwrap_of_not_onlyItem reference, unwrap_of_not_onlyItem comparison] at h
        exact .asTheyAre reference comparison h

instance (test : Criterion) (r c : Option Value) : Decidable (Unequal test r c) :=
  decidable_of_iff _ unequal_iff.symm

/-- The values of a field do not agree when they are unequal. -/
theorem differ_iff_unequal : Differ a b f test ↔ Unequal test (a.get? f) (b.get? f) := by
  rw [Differ, agree?, facing_eq, unequal_iff]

theorem facing_comm (a b : Object) (f : Field) : facing b a f = (facing a b f).swap := by
  rw [facing_eq, facing_eq, Prod.swap_prod_mk]

/-! ## One field -/

theorem compare_of_agree (h : agree? a b f test = .ok true) : l.compare f a b test = .ok l := by
  unfold agree? at h
  unfold compare change?
  split
  · rfl
  · dsimp only
    rw [h]
    rfl

/-- A comparison succeeds when its criterion decides. -/
theorem exists_compare {agree : Bool} (h : agree? a b f test = .ok agree) :
    ∃ l', l.compare f a b test = .ok l' := by
  unfold agree? at h
  unfold compare change?
  split
  · exact ⟨l, rfl⟩
  · dsimp only
    rw [h]
    cases agree <;> exact ⟨_, rfl⟩

/-- A comparison fails with what its criterion does, on the field. -/
theorem failsOnly_compare {P : CompareError → Prop}
    (h : Fallible.FailsOnly (fun e => P (e.onField f)) (agree? a b f test)) :
    Fallible.FailsOnly P (l.compare f a b test) := by
  unfold agree? at h
  unfold compare change?
  split
  · exact .of_eq_ok rfl
  · dsimp only
    intro e he
    split at he
    next agree _ => cases agree <;> cases he
    next e' hagree =>
      cases he
      exact h e' hagree

/-- A comparison leaves the ledger as it is, or enters the field with the values compared. -/
theorem compare_eq_ok (h : l.compare f a b test = .ok l') :
    (l' = l ∧ (f ∈ l.suppressed ∨ agree? a b f test = .ok true)) ∨
      (l' = { l with entries := Keyed.insert f (changeOf a b f) l.entries } ∧
        f ∉ l.suppressed ∧ Differ a b f test) := by
  obtain ⟨change, hchange, h⟩ := Fallible.bind_eq_ok.1 h
  unfold change? at hchange
  split at hchange
  next suppressed =>
    cases hchange
    exact .inl ⟨(Fallible.pure_eq_ok.1 h).symm, .inl (List.contains_iff_mem.1 suppressed)⟩
  next reported =>
    have reported : f ∉ l.suppressed := fun hf => reported (List.contains_iff_mem.2 hf)
    dsimp only at hchange
    cases hagree : Criterion.onOptional test (facing a b f).1 (facing a b f).2 with
    | error e => simp [hagree] at hchange
    | ok agree =>
      rw [hagree] at hchange
      cases agree with
      | true =>
        cases hchange
        exact .inl ⟨(Fallible.pure_eq_ok.1 h).symm, .inr hagree⟩
      | false =>
        cases hchange
        exact .inr ⟨(Fallible.pure_eq_ok.1 h).symm, reported, hagree⟩

theorem suppressed_compare (h : l.compare f a b test = .ok l') : l'.suppressed = l.suppressed := by
  rcases compare_eq_ok h with ⟨rfl, -⟩ | ⟨rfl, -⟩ <;> rfl

/-- A comparison that succeeds has decided, unless the field is left out. -/
theorem agree?_of_compare (h : l.compare f a b test = .ok l') (hf : f ∉ l.suppressed) :
    ∃ agree, agree? a b f test = .ok agree := by
  rcases compare_eq_ok h with ⟨-, suppressed | agree⟩ | ⟨-, -, differ⟩
  · exact absurd suppressed hf
  · exact ⟨true, agree⟩
  · exact ⟨false, differ⟩

theorem mem_fields : f ∈ l.fields ↔ ∃ c, (f, c) ∈ l.entries := by
  simp [fields]

theorem mem_fields_insert {c : Change} (h : Keyed.Sorted l.entries) :
    f ∈ fields { l with entries := Keyed.insert g c l.entries } ↔ f = g ∨ f ∈ l.fields := by
  simp only [mem_fields, Keyed.mem_insert_iff h]
  by_cases hfg : f = g <;> simp [hfg]

/-! ## Many fields -/

/-- A ledger in field order, whose entries are the values that the fields of two objects were
compared by. -/
structure Records (l : Ledger) (a b : Object) : Prop where
  sorted : Keyed.Sorted l.entries
  change : ∀ e ∈ l.entries, e.2 = changeOf a b e.1

theorem records_new {p : Policy} {k : Kind} : (new p k).Records a b := ⟨.nil, by simp [new]⟩

theorem Records.insert (h : l.Records a b) :
    Records { l with entries := Keyed.insert f (changeOf a b f) l.entries } a b where
  sorted := Keyed.sorted_insert _ _ h.sorted
  change e he := by
    rcases Keyed.mem_insert he with rfl | he
    · rfl
    · exact h.change e he

theorem compareAll_nil (l : Ledger) : l.compareAll a b [] = pure l := rfl

theorem compareAll_cons (l : Ledger) (t : Field × Criterion) (tests : List (Field × Criterion)) :
    l.compareAll a b (t :: tests) = (l.compare t.1 a b t.2 >>= (·.compareAll a b tests)) :=
  List.foldlM_cons

theorem compareAll_append (l : Ledger) (a b : Object) (tests later : List (Field × Criterion)) :
    l.compareAll a b (tests ++ later) = (l.compareAll a b tests >>= (·.compareAll a b later)) :=
  List.foldlM_append

theorem compareAll_of_agree (h : ∀ t ∈ tests, agree? a b t.1 t.2 = .ok true) :
    l.compareAll a b tests = .ok l := by
  induction tests with
  | nil => rfl
  | cons t tests ih =>
    rw [compareAll_cons, compare_of_agree (h t List.mem_cons_self)]
    exact ih fun t ht => h t (List.mem_cons_of_mem _ ht)

theorem failsOnly_compareAll {P : CompareError → Prop}
    (h : ∀ t ∈ tests, Fallible.FailsOnly (fun e => P (e.onField t.1)) (agree? a b t.1 t.2)) :
    Fallible.FailsOnly P (l.compareAll a b tests) :=
  .foldlM (fun _ t ht => failsOnly_compare (h t ht)) l

/-- What entering the differences of fields preserves holds after comparing many. -/
theorem compareAll_induction {motive : Ledger → Prop} (hl : motive l)
    (enter : ∀ (m : Ledger) (f : Field), motive m →
      motive { m with entries := Keyed.insert f (changeOf a b f) m.entries })
    (h : l.compareAll a b tests = .ok l') : motive l' := by
  induction tests generalizing l with
  | nil =>
    cases h
    exact hl
  | cons t tests ih =>
    obtain ⟨m, hm, hrest⟩ := Fallible.bind_eq_ok.1 h
    rcases compare_eq_ok hm with ⟨rfl, -⟩ | ⟨rfl, -⟩
    · exact ih hl hrest
    · exact ih (enter _ _ hl) hrest

theorem Records.compareAll (hl : l.Records a b) (h : l.compareAll a b tests = .ok l') :
    l'.Records a b :=
  compareAll_induction (motive := (·.Records a b)) hl (fun _ _ hm => hm.insert) h

theorem agree?_of_compareAll (h : l.compareAll a b tests = .ok l') (ht : (f, test) ∈ tests)
    (hf : f ∉ l.suppressed) : ∃ agree, agree? a b f test = .ok agree := by
  induction tests generalizing l with
  | nil => cases ht
  | cons t tests ih =>
    obtain ⟨m, hm, hrest⟩ := Fallible.bind_eq_ok.1 h
    rcases List.mem_cons.1 ht with rfl | ht
    · exact agree?_of_compare hm hf
    · refine ih hrest ht ?_
      rwa [suppressed_compare hm]

/-- The fields of the ledger are those it had and those that differ, suppressed ones apart. -/
theorem mem_fields_compareAll (hl : Keyed.Sorted l.entries)
    (h : l.compareAll a b tests = .ok l') :
    f ∈ l'.fields ↔
      f ∈ l.fields ∨ f ∉ l.suppressed ∧ ∃ test, (f, test) ∈ tests ∧ Differ a b f test := by
  induction tests generalizing l with
  | nil =>
    cases h
    simp
  | cons t tests ih =>
    obtain ⟨g, test⟩ := t
    obtain ⟨m, hm, hrest⟩ := Fallible.bind_eq_ok.1 h
    rcases compare_eq_ok hm with ⟨rfl, same⟩ | ⟨rfl, reported, differ⟩
    · rw [ih hl hrest]
      have passed : f = g → f ∉ m.suppressed → ¬Differ a b f test := by
        rintro rfl reported differ
        rcases same with suppressed | agree
        · exact reported suppressed
        · rw [Differ, agree] at differ
          cases differ
      grind
    · rw [ih (Keyed.sorted_insert _ _ hl) hrest, mem_fields_insert hl]
      grind

end Ledger

end SchemaDelta

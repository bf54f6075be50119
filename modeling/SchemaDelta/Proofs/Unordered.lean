import Mathlib.Data.Fintype.EquivFin
import Mathlib.Data.List.FinRange
import Mathlib.Data.List.Perm.Basic
import Mathlib.Logic.Equiv.Basic
import SchemaDelta.Criterion
import SchemaDelta.Proofs.Fallible

/-!
# Lists that agree in any order

Every element of the first list takes the first free element of the second that agrees with it, and
what is left of the second list changes its order. If the criterion sorts the elements into classes,
the element taken stands for any other of its class, and so it does not matter which one it is: the
lists agree just when they have the same multiset of classes.

## Main definitions

* `Criterion.Agree` — two values agree by a criterion.
* `Criterion.Classifies` — a criterion sorts some values into classes.
* `Criterion.classOf` — the class of a value.
-/

namespace SchemaDelta

/-! ## Positions -/

section

variable {α β : Type} {as bs : List α} {f : α → β}

theorem coe_map_eq_map_univ (f : α → β) (as : List α) :
    (as.map f : Multiset β) = Finset.univ.val.map fun i : Fin as.length => f as[i] := by
  rw [Fin.univ_val_map]
  congr 1
  exact (List.ofFn_getElem_eq_map as f).symm

/-- Two lists have the same images, however ordered, just when their positions are matched one to
one with equal images. -/
theorem perm_map_iff_exists_equiv [DecidableEq β] : (as.map f).Perm (bs.map f) ↔
    ∃ e : Fin as.length ≃ Fin bs.length, ∀ i, f as[i] = f bs[e i] := by
  rw [← Multiset.coe_eq_coe, coe_map_eq_map_univ, coe_map_eq_map_univ]
  constructor
  · intro same
    -- as many positions of either list have one image
    have fibers (c : β) : Nonempty ({i : Fin as.length // f as[i] = c} ≃
        {j : Fin bs.length // f bs[j] = c}) := by
      have counts := congrArg (Multiset.count c) same
      rw [Multiset.count_map, Multiset.count_map] at counts
      refine Fintype.card_eq.1 ?_
      rw [Fintype.card_subtype, Fintype.card_subtype]
      simpa only [Finset.card, Finset.filter_val, eq_comm (a := c)] using counts
    refine ⟨Equiv.ofFiberEquiv fun c => (fibers c).some, fun i => ?_⟩
    exact (Equiv.ofFiberEquiv_map (fun c => (fibers c).some) i).symm
  · rintro ⟨e, agree⟩
    rw [← Multiset.map_univ_val_equiv e, Multiset.map_map]
    exact Multiset.map_congr rfl fun i _ => agree i

end

namespace Criterion

variable {test : Criterion} {vs as bs free : List Value} {a v w : Value}

/-- Two values agree by a criterion. -/
def Agree (test : Criterion) (v w : Value) : Prop := test v w = .ok true

instance (test : Criterion) (v w : Value) : Decidable (Agree test v w) :=
  inferInstanceAs (Decidable (_ = _))

/-- A criterion sorts some values into classes: it decides between any two of them, and those that
agree are equivalent. -/
structure Classifies (test : Criterion) (vs : List Value) : Prop where
  decides : ∀ v ∈ vs, ∀ w ∈ vs, ∃ agree, test v w = .ok agree
  refl : ∀ v ∈ vs, Agree test v v
  symm : ∀ v ∈ vs, ∀ w ∈ vs, Agree test v w → Agree test w v
  trans : ∀ u ∈ vs, ∀ v ∈ vs, ∀ w ∈ vs, Agree test u v → Agree test v w → Agree test u w

/-- The class of a value among some. -/
def classOf (test : Criterion) (vs : List Value) (v : Value) : List Value :=
  vs.filter fun w => Agree test v w

theorem classOf_eq_iff (h : Classifies test vs) (hv : v ∈ vs) (hw : w ∈ vs) :
    classOf test vs v = classOf test vs w ↔ Agree test v w := by
  constructor
  · intro same
    have inside : w ∈ classOf test vs w := List.mem_filter.2 ⟨hw, decide_eq_true (h.refl w hw)⟩
    rw [← same] at inside
    exact of_decide_eq_true (List.mem_filter.1 inside).2
  · intro agree
    refine List.filter_congr fun u hu => decide_eq_decide.2 ⟨?_, ?_⟩
    · exact h.trans w hw v hv u hu (h.symm v hv w hw agree)
    · exact h.trans v hv w hw u hu agree

/-! ## Free elements -/

theorem firstMatch?_eq (decides : ∀ b ∈ bs, ∃ agree, test a b = .ok agree) :
    firstMatch? test a bs = .ok (bs.findIdx? fun b => Agree test a b) := by
  induction bs with
  | nil => rfl
  | cons b bs ih =>
    obtain ⟨agree, hagree⟩ := decides b List.mem_cons_self
    have ih := ih fun b hb => decides b (List.mem_cons_of_mem _ hb)
    rw [firstMatch?, hagree, Fallible.ok_bind, List.findIdx?_cons, ih]
    cases agree <;> simp [Agree, hagree, Fallible.pure_eq]

/-- What is taken out and what is left are the list, in another order. -/
theorem perm_takeOut {i : Nat} (h : i < free.length) :
    (free[i] :: takeOut free i).Perm free := by
  rcases List.eq_nil_or_concat' free with rfl | ⟨front, last, rfl⟩
  · cases h
  · simp only [takeOut, List.getLast?_concat, List.length_append, List.length_singleton,
      beq_iff_eq, Nat.add_right_cancel_iff, List.dropLast_concat]
    split
    · next hi =>
      subst hi
      rw [List.getElem_concat_length rfl]
      exact (List.perm_append_singleton last front).symm
    · next hi =>
      have inside : i < front.length := by
        rw [List.length_append, List.length_singleton] at h
        omega
      rw [List.getElem_append_left inside]
      calc
        List.Perm (front[i] :: front.set i last) (front[i] :: last :: front.eraseIdx i) :=
          (List.set_perm_cons_eraseIdx inside last).cons _
        List.Perm _ (last :: front[i] :: front.eraseIdx i) := .swap ..
        List.Perm _ (last :: front) := (List.getElem_cons_eraseIdx_perm inside).cons _
        List.Perm _ (front ++ [last]) := (List.perm_append_singleton last front).symm

/-! ## Multisets of classes -/

/-- Of two lists of one length, the elements of the first are all matched just when the second has
the same classes in any order. -/
theorem matchAll_eq (h : Classifies test vs) (has : as ⊆ vs) (hfree : free ⊆ vs)
    (lengths : as.length = free.length) : matchAll test as free =
      .ok (decide ((as.map (classOf test vs)).Perm (free.map (classOf test vs)))) := by
  induction as generalizing free with
  | nil =>
    obtain rfl : free = [] := List.length_eq_zero_iff.1 lengths.symm
    rfl
  | cons a as ih =>
    obtain ⟨ha, has⟩ := List.cons_subset.1 has
    have decides : ∀ b ∈ free, ∃ agree, test a b = .ok agree :=
      fun b hb => h.decides a ha b (hfree hb)
    rw [matchAll, firstMatch?_eq decides, Fallible.ok_bind]
    cases found : free.findIdx? fun b => Agree test a b with
    | none =>
      -- the class of `a` is one that the second list does not have
      have missing : ¬((a :: as).map (classOf test vs)).Perm (free.map (classOf test vs)) := by
        intro same
        obtain ⟨b, hb, sameClass⟩ := List.mem_map.1 (same.subset List.mem_cons_self)
        have agree := (classOf_eq_iff h ha (hfree hb)).1 sameClass.symm
        have apart := List.findIdx?_eq_none_iff.1 found b hb
        exact of_decide_eq_false apart agree
      rw [decide_eq_false missing]
      rfl
    | some i =>
      obtain ⟨hi, agree, -⟩ := List.findIdx?_eq_some_iff_getElem.1 found
      have taken := perm_takeOut hi
      have sameClass := (classOf_eq_iff h ha (hfree (List.getElem_mem hi))).2
        (of_decide_eq_true agree)
      have hrest : takeOut free i ⊆ vs := fun b hb =>
        hfree (taken.subset (List.mem_cons_of_mem _ hb))
      have restLength : as.length = (takeOut free i).length := by
        have := taken.length_eq
        simp only [List.length_cons] at this lengths
        omega
      have classes : (as.map (classOf test vs)).Perm ((takeOut free i).map (classOf test vs)) ↔
          ((a :: as).map (classOf test vs)).Perm (free.map (classOf test vs)) := by
        rw [← List.perm_cons (classOf test vs a), List.map_cons]
        have same := taken.map (classOf test vs)
        rw [List.map_cons, ← sameClass] at same
        exact ⟨fun perm => perm.trans same, fun perm => perm.trans same.symm⟩
      simp only [ih has hrest restLength, classes]

/-- Two lists agree in any order just when they have the same multiset of classes. -/
theorem unordered_eq (h : Classifies test vs) (has : as ⊆ vs) (hbs : bs ⊆ vs) :
    unordered test (.list as) (.list bs) =
      .ok (decide ((as.map (classOf test vs)).Perm (bs.map (classOf test vs)))) := by
  simp only [unordered, items, Fallible.ok_bind, beq_iff_eq]
  split
  · next lengths => exact matchAll_eq h has hbs lengths
  · next lengths =>
    have apart : ¬(as.map (classOf test vs)).Perm (bs.map (classOf test vs)) := fun same =>
      lengths (by simpa using same.length_eq)
    rw [decide_eq_false apart]
    rfl

theorem count_classOf (h : Classifies test vs) (hv : v ∈ vs) (has : as ⊆ vs) :
    (as.map (classOf test vs)).count (classOf test vs v) = as.countP fun w => Agree test v w := by
  rw [List.count, List.countP_map]
  refine List.countP_congr fun w hw => ?_
  rw [Function.comp_apply, beq_iff_eq, decide_eq_true_iff, eq_comm,
    classOf_eq_iff h hv (has hw)]

/-- The classes are the same just when each has as many elements in one list as in the other. -/
theorem perm_classes_iff (h : Classifies test vs) (has : as ⊆ vs) (hbs : bs ⊆ vs) :
    (as.map (classOf test vs)).Perm (bs.map (classOf test vs)) ↔
      ∀ v ∈ vs, as.countP (fun w => Agree test v w) = bs.countP fun w => Agree test v w := by
  rw [List.perm_iff_count]
  constructor
  · intro counts v hv
    rw [← count_classOf h hv has, ← count_classOf h hv hbs, counts]
  · intro counts c
    by_cases given : ∃ v ∈ vs, classOf test vs v = c
    · obtain ⟨v, hv, rfl⟩ := given
      rw [count_classOf h hv has, count_classOf h hv hbs, counts v hv]
    · have missing {xs : List Value} (hxs : xs ⊆ vs) : c ∉ xs.map (classOf test vs) := by
        intro hc
        obtain ⟨v, hv, same⟩ := List.mem_map.1 hc
        exact given ⟨v, hxs hv, same⟩
      rw [List.count_eq_zero.2 (missing has), List.count_eq_zero.2 (missing hbs)]

/-- Written forms sort all values into classes. -/
theorem classifies_byText (caseSensitive : Bool) (vs : List Value) :
    Classifies (byText caseSensitive) vs := by
  have agree_iff (v w : Value) : Agree (byText caseSensitive) v w ↔
      if caseSensitive then v.display = w.display
      else Text.lower v.display = Text.lower w.display := by
    cases caseSensitive <;> simp [Agree, byText, Text.sameIgnoringCase]
  refine ⟨fun v _ w _ => ⟨_, rfl⟩, ?_, ?_, ?_⟩ <;> simp only [agree_iff] <;> grind

/-- Where a criterion sorts the elements of two lists into classes, the lists are compared, and they
agree just when their positions are matched one to one with elements that agree, or when every class
occurs equally often in both. The order of either list does not matter, nor which list comes
first. -/
theorem unordered_iff_exists_equiv (h : Classifies test (as ++ bs)) :
    ∃ agree, unordered test (.list as) (.list bs) = .ok agree ∧
      (agree = true ↔
        ∃ e : Fin as.length ≃ Fin bs.length, ∀ i, Agree test as[i] bs[e i]) ∧
      (agree = true ↔ ∀ v ∈ as ++ bs,
        as.countP (fun w => Agree test v w) = bs.countP fun w => Agree test v w) ∧
      (∀ as' bs', as'.Perm as → bs'.Perm bs →
        unordered test (.list as') (.list bs') = .ok agree) ∧
      unordered test (.list bs) (.list as) = .ok agree := by
  have has : as ⊆ as ++ bs := List.subset_append_left _ _
  have hbs : bs ⊆ as ++ bs := List.subset_append_right _ _
  refine ⟨_, unordered_eq h has hbs, ?positions, ?counts, ?order, ?sides⟩
  case positions =>
    rw [decide_eq_true_iff, perm_map_iff_exists_equiv]
    refine exists_congr fun e => forall_congr' fun i => ?_
    exact classOf_eq_iff h (has (List.getElem_mem _)) (hbs (List.getElem_mem _))
  case counts => rw [decide_eq_true_iff, perm_classes_iff h has hbs]
  case order =>
    intro as' bs' hperm hperm'
    rw [unordered_eq h (fun v hv => has (hperm.subset hv)) fun v hv => hbs (hperm'.subset hv)]
    have same := hperm.map (classOf test (as ++ bs))
    have same' := hperm'.map (classOf test (as ++ bs))
    refine congrArg Except.ok (decide_eq_decide.2 ⟨fun perm => ?_, fun perm => ?_⟩)
    · exact (same.symm.trans perm).trans same'
    · exact (same.trans perm).trans same'.symm
  case sides =>
    rw [unordered_eq h hbs has]
    exact congrArg Except.ok (decide_eq_decide.2 List.perm_comm)

/-- Texts and a number, of which some are written alike but for their case. -/
theorem unordered_iff_exists_equiv_byText :
    let as : List Value := [.text "A", .text "1", .text "b", .text "B"]
    let bs : List Value := [.text "B", .number (.int 1), .text "a", .text "b"]
    Classifies (byText false) (as ++ bs) ∧
      unordered (byText false) (.list as) (.list bs) = .ok true ∧
      ∃ e : Fin as.length ≃ Fin bs.length, ∀ i, Agree (byText false) as[i] bs[e i] := by
  intro as bs
  have classes : Classifies (byText false) (as ++ bs) := classifies_byText false _
  have matched : unordered (byText false) (.list as) (.list bs) = .ok true := by decide +kernel
  obtain ⟨agree, compared, positions, -⟩ := unordered_iff_exists_equiv classes
  rw [matched, Except.ok.injEq] at compared
  exact ⟨classes, matched, positions.1 compared.symm⟩

/-- Types that are compatible are not equivalent, and so it depends on their order whether lists of
them agree. -/
example :
    unordered dataType (.list [.dataType (.parse "char"), .dataType (.parse "char(2)")])
        (.list [.dataType (.parse "char(1)"), .dataType (.parse "char(2)")]) = .ok true ∧
      unordered dataType (.list [.dataType (.parse "char"), .dataType (.parse "char(2)")])
        (.list [.dataType (.parse "char(2)"), .dataType (.parse "char(1)")]) = .ok false := by
  decide +kernel

end Criterion

end SchemaDelta

import Mathlib.Data.List.FinRange
import Mathlib.Data.List.Perm.Subperm
import SchemaDelta.Proofs.Matching

/-!
# Pairings

A pairing of two lists of objects pairs positions of the one with positions of the other
and gives no position away twice, so that every object is unpaired or in one pair. The
outcomes of a run over the objects of a kind describe a pairing, and what they record is
what this pairing leads to.

## Main definitions

* `Pairing` — a partial, injective pairing of positions, with the lists it leads to.
* `Comparison.Settled.pairing` — the pairing that the outcomes of a run describe.
-/

namespace SchemaDelta

open Comparison

/-- A partial pairing of the positions of two lists that gives no position away twice. -/
structure Pairing (references objects : List Object) where
  partner : Fin references.length → Option (Fin objects.length)
  injective {i i' : Fin references.length} {p : Fin objects.length} :
    partner i = some p → partner i' = some p → i = i'

namespace Pairing

variable {references objects : List Object}

/-- The reference objects without a partner, in order. -/
def unpairedReferences (m : Pairing references objects) : List Object :=
  ((List.finRange _).filter fun i => (m.partner i).isNone).map references.get

/-- The objects that are no partner, in order. -/
def unpairedObjects (m : Pairing references objects) : List Object :=
  ((List.finRange _).filter fun p => ∀ i, m.partner i ≠ some p).map objects.get

/-- The paired objects, in the order of the reference. -/
def pairs (m : Pairing references objects) : List (Object × Object) :=
  (List.finRange _).filterMap fun i => (m.partner i).map fun p => (references.get i, objects.get p)

theorem mem_pairs {m : Pairing references objects} {r c : Object} :
    (r, c) ∈ m.pairs ↔ ∃ i q, m.partner i = some q ∧ references.get i = r ∧ objects.get q = c := by
  simp only [pairs, List.mem_filterMap, List.mem_finRange, true_and, Option.map_eq_some_iff,
    Prod.mk.injEq]

theorem mem_of_mem_pairs {m : Pairing references objects} {r c : Object} (h : (r, c) ∈ m.pairs) :
    r ∈ references ∧ c ∈ objects := by
  obtain ⟨i, q, -, rfl, rfl⟩ := mem_pairs.1 h
  exact ⟨List.get_mem .., List.get_mem ..⟩

theorem nodup_partners (m : Pairing references objects) :
    ((List.finRange _).filterMap m.partner).Nodup :=
  (List.nodup_finRange _).filterMap fun _ _ _ hi hi' => m.injective hi hi'

/-- Every reference object is unpaired or in one pair. -/
theorem perm_references (m : Pairing references objects) :
    (m.unpairedReferences ++ m.pairs.map (·.1)).Perm references := by
  have pairs_fst : m.pairs.map (·.1) =
      ((List.finRange _).filter fun i => !(m.partner i).isNone).map references.get := by
    rw [pairs, List.map_filterMap, ← List.filterMap_eq_map, List.filterMap_filter]
    refine List.filterMap_congr ?_
    intro i _
    cases m.partner i <;> simp
  have split := List.filter_append_perm (fun i => (m.partner i).isNone) (List.finRange _)
  rw [pairs_fst, unpairedReferences, ← List.map_append]
  exact (split.map references.get).trans (.of_eq (List.map_get_finRange references))

/-- Every object is unpaired or in one pair. -/
theorem perm_objects (m : Pairing references objects) :
    (m.unpairedObjects ++ m.pairs.map (·.2)).Perm objects := by
  have pairs_snd : m.pairs.map (·.2) = ((List.finRange _).filterMap m.partner).map objects.get := by
    rw [pairs, List.map_filterMap, List.map_filterMap]
    refine List.filterMap_congr ?_
    intro i _
    cases m.partner i <;> simp
  have partners : ((List.finRange _).filterMap m.partner).Perm
      ((List.finRange _).filter fun p => !decide (∀ i, m.partner i ≠ some p)) := by
    rw [List.perm_ext_iff_of_nodup m.nodup_partners ((List.nodup_finRange _).filter _)]
    simp
  have split := (partners.append_left _).trans <|
    List.filter_append_perm (fun p => decide (∀ i, m.partner i ≠ some p)) (List.finRange _)
  rw [pairs_snd, unpairedObjects, ← List.map_append]
  exact (split.map objects.get).trans (.of_eq (List.map_get_finRange objects))

end Pairing

/-! ## The pairing of a run -/

namespace Comparison

variable {j : Judge} {references objects : List Object} {outcomes : List Outcome}

/-- The reference object, when it stays unpaired. -/
def Outcome.unpaired? : Outcome → Option Object
  | unpaired r => some r
  | paired _ _ _ _ => none

/-- The pair with its differences, when there is one. -/
def Outcome.pair? : Outcome → Option ChangedPair
  | unpaired _ => none
  | paired r c _ l => some ⟨r, c, l⟩

theorem filterMap_finRange {α β : Type} {n : Nat} {xs : List α} (hn : xs.length = n)
    {f : Fin n → Option β} {g : α → Option β} (h : ∀ i, f i = g (xs.get (i.cast hn.symm))) :
    (List.finRange n).filterMap f = xs.filterMap g := by
  subst hn
  conv_rhs => rw [← List.map_get_finRange xs, List.filterMap_map]
  exact List.filterMap_congr fun i _ => h i

namespace Settled

theorem length_eq (h : Settled j objects [] references outcomes) :
    outcomes.length = references.length := by
  rw [← h.map_reference, List.length_map]

/-- What became of the object at a reference position. -/
def outcomeAt (h : Settled j objects [] references outcomes) (i : Fin references.length) :
    Outcome :=
  outcomes.get (i.cast h.length_eq.symm)

theorem outcomeAt_mem (h : Settled j objects [] references outcomes)
    (i : Fin references.length) : h.outcomeAt i ∈ outcomes := List.get_mem ..

theorem reference_outcomeAt (h : Settled j objects [] references outcomes)
    (i : Fin references.length) : (h.outcomeAt i).reference = references[i] := by
  have hmap := h.map_reference
  subst hmap
  simp [outcomeAt]

/-- A position that is taken up holds an object. -/
theorem position_lt (h : Settled j objects [] references outcomes) {o : Outcome}
    (ho : o ∈ outcomes) {p : Nat} (hp : o.position? = some p) : p < objects.length := by
  cases o with
  | unpaired => cases hp
  | paired r c q l =>
    cases hp
    exact (List.getElem?_eq_some_iff.1 (h.of_paired_mem ho).1).1

/-- The position that the object at a reference position is paired with. -/
def partner? (h : Settled j objects [] references outcomes) (i : Fin references.length) :
    Option (Fin objects.length) :=
  (h.outcomeAt i).position?.pmap Fin.mk fun _ hp => h.position_lt (h.outcomeAt_mem i) hp

theorem partner?_eq_some (h : Settled j objects [] references outcomes)
    {i : Fin references.length} {p : Fin objects.length} :
    h.partner? i = some p ↔ (h.outcomeAt i).position? = some p.1 := by
  rw [partner?, Option.pmap_eq_some_iff]
  constructor
  · rintro ⟨q, _, hq, rfl⟩
    exact hq
  · exact fun hp => ⟨p, p.2, hp, rfl⟩

theorem partner?_of_unpaired (h : Settled j objects [] references outcomes)
    {i : Fin references.length} {r : Object} (ho : h.outcomeAt i = .unpaired r) :
    h.partner? i = none := by
  refine Option.eq_none_iff_forall_ne_some.2 ?_
  intro p hp
  rw [partner?_eq_some, ho] at hp
  cases hp

theorem partner?_of_paired (h : Settled j objects [] references outcomes)
    {i : Fin references.length} {r c : Object} {p : Nat} {l : Ledger}
    (ho : h.outcomeAt i = .paired r c p l) :
    ∃ hp : p < objects.length, objects[p] = c ∧ h.partner? i = some ⟨p, hp⟩ := by
  have mem := h.outcomeAt_mem i
  rw [ho] at mem
  obtain ⟨hp, hc⟩ := List.getElem?_eq_some_iff.1 (h.of_paired_mem mem).1
  refine ⟨hp, hc, ?_⟩
  rw [partner?_eq_some, ho]
  rfl

theorem outcomeAt_eq_paired (h : Settled j objects [] references outcomes)
    {i : Fin references.length} {p : Fin objects.length} (hp : h.partner? i = some p) :
    ∃ l, h.outcomeAt i = .paired references[i] objects[p] p l := by
  cases ho : h.outcomeAt i with
  | unpaired r =>
    rw [h.partner?_of_unpaired ho] at hp
    cases hp
  | paired r c q l =>
    obtain ⟨hq, rfl, partner⟩ := h.partner?_of_paired ho
    obtain rfl := Option.some.inj (partner.symm.trans hp)
    have hr := h.reference_outcomeAt i
    rw [ho] at hr
    exact ⟨l, by rw [← hr]; rfl⟩

/-- No position is given to two reference positions. -/
theorem partner?_injective (h : Settled j objects [] references outcomes)
    {i i' : Fin references.length} {p : Fin objects.length} (hi : h.partner? i = some p)
    (hi' : h.partner? i' = some p) : i = i' := by
  have apart := List.pairwise_iff_get.1 (List.pairwise_filterMap.1 h.nodup_positions)
  have differ (a b : Fin references.length) (hab : a < b) (ha : h.partner? a = some p)
      (hb : h.partner? b = some p) : False :=
    apart (a.cast h.length_eq.symm) (b.cast h.length_eq.symm) hab _ (h.partner?_eq_some.1 ha) _
      (h.partner?_eq_some.1 hb) rfl
  rcases lt_trichotomy i i' with hlt | heq | hlt
  · exact (differ i i' hlt hi hi').elim
  · exact heq
  · exact (differ i' i hlt hi' hi).elim

/-- The pairing that the outcomes of a run describe. -/
def pairing (h : Settled j objects [] references outcomes) : Pairing references objects where
  partner := h.partner?
  injective := h.partner?_injective

theorem unpairedReferences_pairing (h : Settled j objects [] references outcomes) :
    h.pairing.unpairedReferences = outcomes.filterMap Outcome.unpaired? := by
  rw [Pairing.unpairedReferences, ← List.filterMap_eq_map, List.filterMap_filter]
  refine filterMap_finRange h.length_eq ?_
  intro i
  have hr := h.reference_outcomeAt i
  change _ = (h.outcomeAt i).unpaired?
  cases ho : h.outcomeAt i with
  | unpaired r =>
    simp_all [pairing, h.partner?_of_unpaired ho, Outcome.unpaired?, Outcome.reference]
  | paired r c p l =>
    obtain ⟨hp, -, partner⟩ := h.partner?_of_paired ho
    simp [pairing, partner, Outcome.unpaired?]

theorem pairs_pairing (h : Settled j objects [] references outcomes) :
    h.pairing.pairs =
      (outcomes.filterMap Outcome.pair?).map fun x => (x.reference, x.comparison) := by
  rw [Pairing.pairs, List.map_filterMap]
  refine filterMap_finRange h.length_eq ?_
  intro i
  have hr := h.reference_outcomeAt i
  change _ = (h.outcomeAt i).pair?.map _
  cases ho : h.outcomeAt i with
  | unpaired r => simp [pairing, h.partner?_of_unpaired ho, Outcome.pair?]
  | paired r c p l =>
    obtain ⟨hp, hc, partner⟩ := h.partner?_of_paired ho
    simp_all [pairing, Outcome.pair?, Outcome.reference]

theorem unpairedObjects_pairing (h : Settled j objects [] references outcomes) :
    h.pairing.unpairedObjects = leftOver outcomes objects := by
  have taken (p : Fin objects.length) :
      (∃ i, h.partner? i = some p) ↔ p.1 ∈ positions outcomes := by
    simp only [partner?_eq_some]
    constructor
    · rintro ⟨i, hi⟩
      exact List.mem_filterMap.2 ⟨_, h.outcomeAt_mem i, hi⟩
    · intro hp
      obtain ⟨o, ho, hp⟩ := List.mem_filterMap.1 hp
      obtain ⟨i, rfl⟩ := List.mem_iff_get.1 ho
      exact ⟨i.cast h.length_eq, hp⟩
  rw [Pairing.unpairedObjects, leftOver, ← List.filterMap_eq_map, ← List.filterMap_eq_map,
    List.filterMap_filter, List.filterMap_filter]
  refine filterMap_finRange (by simp) ?_
  intro p
  have free : (∀ i, h.pairing.partner i ≠ some p) ↔ p.1 ∉ positions outcomes := by
    rw [← taken, not_exists]
    rfl
  simp [free, positions]

end Settled

end Comparison

end SchemaDelta

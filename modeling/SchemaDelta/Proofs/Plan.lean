import SchemaDelta.Proofs.Scan
import SchemaDelta.Proofs.Totality

/-!
# Pairing before comparing

Which objects are paired depends on their keys and on what is judged the same, not on how they
differ. Where keys and sameness are known, comparing a kind is therefore two things in turn:
objects are paired first, and the differences of the pairs are found after that, in order. The
pairing is the same for all judges who agree on keys and on sameness.

## Main definitions

* `Judge.Certain` — keys and sameness are known.
* `Judge.blind` — the judge without the differences that it finds.
* `Pairing.Leads` — comparing a kind finds what a pairing leads to.
-/

namespace SchemaDelta

open Comparison

/-- Keys and sameness of the objects of two sides are known. -/
structure Judge.Certain (j : Judge) (references objects : List Object) : Prop where
  keys : ∀ o ∈ references ++ objects, ∃ ks, j.keys o = .ok ks
  same : ∀ r ∈ references, ∀ c ∈ objects, ∃ b, j.same (some r) (some c) = .ok b

/-- A judge of the same keys and the same sameness who finds no differences. -/
def Judge.blind (j : Judge) : Judge := { j with differences := fun _ _ _ => .ok .empty }

theorem Rulebook.judge_certain {d : Dialect} {p : Policy} (references objects : List Object) :
    ((builtin d).judge d p).Certain references objects :=
  ⟨fun o _ => ⟨_, judge_keys o⟩, fun r _ c _ => ⟨_, judge_same r c⟩⟩

namespace Comparison

variable {j : Judge} {objects references : List Object} {taken : List Nat} {r : Object}
  {outcomes : List Outcome}

/-- The outcome with the differences that a judge finds. -/
def Outcome.judged (j : Judge) : Outcome → Except CompareError Outcome
  | unpaired r => .ok (unpaired r)
  | paired r c q _ => do return .paired r c q (← j.differences (some r) (some c) [])

theorem firstFree?_blind (ps : List Nat) :
    firstFree? j.blind objects.toArray taken r ps = firstFree? j objects.toArray taken r ps := by
  induction ps with
  | nil => rfl
  | cons q ps ih =>
    rw [firstFree?, firstFree?, ih]
    rfl

/-- The differences of pairs may be found once all are paired. -/
theorem pairAll_eq_mapM {buckets : Buckets}
    (h : pairAll j.blind objects.toArray buckets taken references = .ok outcomes) :
    pairAll j objects.toArray buckets taken references = outcomes.mapM (Outcome.judged j) := by
  induction references generalizing taken outcomes with
  | nil =>
    cases h
    rfl
  | cons r rest ih =>
    obtain ⟨ks, hr, h⟩ := Fallible.bind_eq_ok.1 h
    obtain ⟨found, hfound, h⟩ := Fallible.bind_eq_ok.1 h
    have hr : j.keys r = .ok ks := hr
    rw [firstFree?_blind] at hfound
    rw [pairAll, hr, Fallible.ok_bind, hfound, Fallible.ok_bind]
    cases found with
    | none =>
      obtain ⟨later, hlater, h⟩ := Fallible.bind_eq_ok.1 h
      cases h
      rw [List.mapM_cons, ← ih hlater]
      rfl
    | some found =>
      obtain ⟨q, c⟩ := found
      obtain ⟨l, -, h⟩ := Fallible.bind_eq_ok.1 h
      obtain ⟨later, hlater, h⟩ := Fallible.bind_eq_ok.1 h
      cases h
      rw [List.mapM_cons, ← ih hlater]
      simp only [Outcome.judged]
      cases j.differences (some r) (some c) [] <;> rfl

/-- The pair with the differences that a judge finds. -/
def pairJudged (j : Judge) (x : Object × Object) : Except CompareError ChangedPair := do
  return ⟨x.1, x.2, ← j.differences (some x.1) (some x.2) []⟩

/-- Finding the differences of outcomes is finding those of the pairs among them. -/
theorem map_judged (outcomes : List Outcome) :
    (outcomes.mapM (Outcome.judged j)).map (fun os =>
        (os.filterMap Outcome.unpaired?, positions os, os.filterMap Outcome.pair?)) =
      (((outcomes.filterMap Outcome.pair?).map fun x : ChangedPair =>
        (x.reference, x.comparison)).mapM (pairJudged j)).map fun all =>
          (outcomes.filterMap Outcome.unpaired?, positions outcomes, all) := by
  induction outcomes with
  | nil => rfl
  | cons o rest ih =>
    rw [List.mapM_cons]
    cases o with
    | unpaired r =>
      -- nothing is found of what stays unpaired
      have ih := congrArg (Except.map fun x => (r :: x.1, x.2)) ih
      rw [Fallible.map_map, Fallible.map_map] at ih
      refine Eq.trans ?_ ih
      cases rest.mapM (Outcome.judged j) <;> rfl
    | paired r c q l =>
      have pairs : (Outcome.paired r c q l :: rest).filterMap Outcome.pair? =
          ⟨r, c, l⟩ :: rest.filterMap Outcome.pair? := rfl
      rw [pairs, List.map_cons, List.mapM_cons, Outcome.judged, pairJudged]
      cases j.differences (some r) (some c) [] with
      | error e => rfl
      | ok l =>
        have ih := congrArg
          (Except.map fun x => (x.1, q :: x.2.1, (⟨r, c, l⟩ : ChangedPair) :: x.2.2)) ih
        rw [Fallible.map_map, Fallible.map_map] at ih
        refine Eq.trans ?_ (ih.trans ?_)
        · cases rest.mapM (Outcome.judged j) <;> rfl
        · generalize (List.map _ _).mapM (pairJudged j) = found
          cases found <;> rfl

theorem exists_settled_blind (certain : j.Certain references objects) :
    ∃ outcomes, Settled j.blind objects [] references outcomes := by
  obtain ⟨keys, hkeys⟩ := Fallible.exists_mapM_eq_ok fun c (hc : c ∈ objects) =>
    certain.keys c (List.mem_append_right _ hc)
  have paired : Fallible.FailsOnly (fun _ => False)
      (pairAll j.blind objects.toArray (Buckets.ofKeys keys) [] references) := by
    apply failsOnly_pairAll
    · intro r hr
      obtain ⟨ks, h⟩ := certain.keys r (List.mem_append_left _ hr)
      exact .of_eq_ok h
    · intro r hr c hc
      obtain ⟨b, h⟩ := certain.same r hr c hc
      exact .of_eq_ok h
    · intro _ _ _ _
      exact .of_eq_ok rfl
  obtain ⟨outcomes, h⟩ := Fallible.exists_eq_ok_of_failsOnly paired
  exact ⟨outcomes, settled_of_pairAll hkeys h⟩

end Comparison

/-! ## Comparing a kind -/

variable {j j' : Judge} {p : Policy} {R C : Snapshot} {f : Findings} {k : Kind}

/-- Comparing a kind finds what a pairing leads to, and fails only as finding the differences of
its pairs does. -/
def Pairing.Leads (m : Pairing (R.ofKind k) (C.ofKind k)) (j : Judge) : Prop :=
  ∀ f, findingsOfKind j R C f k = (m.compared j).map (m.found f)

/-- What a run adds to findings, told by its unpaired objects, taken positions and pairs. -/
def Comparison.foundOf (objects : List Object) (f : Findings)
    (x : List Object × List Nat × List ChangedPair) : Findings :=
  { f with
    missing := f.missing ++ x.1.filter fun r => !Findings.standsForExpression r
    unexpected := f.unexpected ++ freeOf x.2.1 objects.zipIdx
    changed := f.changed ++ x.2.2.filter fun y => f.counts y.reference y.ledger }

/-- All judges who agree on keys and on sameness are led by the pairing of the blind one. -/
theorem Comparison.Settled.leads_pairing {outcomes : List Outcome}
    (h : Settled j.blind (C.ofKind k) [] (R.ofKind k) outcomes)
    (certain : j.Certain (R.ofKind k) (C.ofKind k)) (blind : j'.blind = j.blind) :
    h.pairing.Leads j' := by
  have keysEq : j'.blind.keys = j.blind.keys := congrArg Judge.keys blind
  change j'.keys = j.keys at keysEq
  obtain ⟨keys, hkeys⟩ := Fallible.exists_mapM_eq_ok fun c (hc : c ∈ C.ofKind k) =>
    certain.keys c (List.mem_append_right _ hc)
  have run : pairAll j' (C.ofKind k).toArray (Buckets.ofKeys keys) [] (R.ofKind k) =
      outcomes.mapM (Outcome.judged j') := by
    apply pairAll_eq_mapM
    rw [blind]
    exact h.pairAll_eq_ok hkeys fun r hr => certain.keys r (List.mem_append_left _ hr)
  have compared : h.pairing.compared j' =
      ((outcomes.filterMap Outcome.pair?).map fun x : ChangedPair =>
        (x.reference, x.comparison)).mapM (pairJudged j') := by
    rw [Pairing.compared, h.pairs_pairing]
    rfl
  intro f
  calc findingsOfKind j' R C f k
      = ((outcomes.mapM (Outcome.judged j')).map fun os =>
          (os.filterMap Outcome.unpaired?, positions os, os.filterMap Outcome.pair?)).map
            (foundOf (C.ofKind k) f) := by
        rw [findingsOfKind, keysEq, hkeys, Fallible.ok_bind, run, Fallible.map_map]
        cases outcomes.mapM (Outcome.judged j') with
        | error e => rfl
        | ok os =>
          rw [Fallible.ok_bind, Fallible.map_ok, Findings.foldl_record]
          exact congrArg Except.ok (Findings.foldl_addUnexpected _ _)
    _ = ((h.pairing.compared j').map fun all =>
          (outcomes.filterMap Outcome.unpaired?, positions outcomes, all)).map
            (foundOf (C.ofKind k) f) := by
        rw [map_judged, compared]
    _ = (h.pairing.compared j').map (h.pairing.found f) := by
        rw [Fallible.map_map]
        congr 1
        funext all
        rw [Pairing.found, h.unpairedReferences_pairing, h.unpairedObjects_pairing]
        rfl

/-- What a pairing leads to explains the findings of a whole run. -/
theorem Pairing.Leads.explains {m : Pairing (R.ofKind k) (C.ofKind k)} (leads : m.Leads j)
    (settles : m.Settles j) (h : compareSnapshots j p R C = .ok f) (hk : k ∈ p.kinds) :
    m.Explains j p f := by
  obtain ⟨before, after, split⟩ := List.append_of_mem (mem_orderedKinds.2 hk)
  have hnodup := nodup_orderedKinds p
  rw [split] at hnodup
  obtain ⟨-, hafter, apart⟩ := List.nodup_append.1 hnodup
  rw [compareSnapshots, split, List.foldlM_append] at h
  obtain ⟨f₀, h₀, h⟩ := Fallible.bind_eq_ok.1 h
  obtain ⟨f₁, h₁, h⟩ := Fallible.bind_eq_ok.1 h
  have accounted := accounted_foldlM accounted_start (List.nodup_append.1 hnodup).1 h₀
  rw [leads, Fallible.map_eq_ok] at h₁
  obtain ⟨all, hall, rfl⟩ := h₁
  have new : k ∉ before := fun hk => apart k hk k List.mem_cons_self rfl
  have explains := m.explains_found accounted new settles hall
  exact explains.foldlM (List.nodup_cons.1 hafter).1 h

end SchemaDelta

import SchemaDelta.Proofs.Pairing
import SchemaDelta.Rulebook

/-!
# Accounts of findings

The findings of a run are told by one pairing for each compared kind: what stays unpaired
on either side is missing or unexpected, and what is paired and differs has changed.
Comparing one more kind keeps the accounts of the kinds before it.

## Main definitions

* `Pairing.Explains` — the findings of a kind are those that a pairing leads to.
* `Accounted` — the findings of some kinds are explained, and there are no others.
-/

namespace SchemaDelta

open Comparison

variable {j : Judge} {p : Policy} {R C : Snapshot} {f g : Findings} {k : Kind}
  {ks : List Kind} {outcomes : List Outcome}

/-! ## Growing findings -/

namespace Findings

theorem record_unpaired (f : Findings) (r : Object) :
    Outcome.record f (.unpaired r) =
      { f with missing := f.missing ++ [r].filter fun r => !standsForExpression r } := by
  cases hr : standsForExpression r <;> simp [Outcome.record, addMissing, hr]

theorem record_paired (f : Findings) (r c : Object) (q : Nat) (l : Ledger) :
    Outcome.record f (.paired r c q l) =
      { f with
        changed := f.changed ++ [⟨r, c, l⟩].filter fun x => f.counts x.reference x.ledger } := by
  cases hl : f.counts r l <;> simp [Outcome.record, addChanged, hl]

/-- Recording outcomes adds to the missing objects and to the changed pairs. -/
theorem foldl_record (f : Findings) (outcomes : List Outcome) :
    outcomes.foldl Outcome.record f =
      { f with
        missing := f.missing ++
          (outcomes.filterMap Outcome.unpaired?).filter fun r => !standsForExpression r
        changed := f.changed ++
          (outcomes.filterMap Outcome.pair?).filter fun x => f.counts x.reference x.ledger } := by
  induction outcomes generalizing f with
  | nil => simp
  | cons o rest ih =>
    rw [List.foldl_cons, ih]
    cases o with
    | unpaired r =>
      rw [record_unpaired, List.append_assoc, ← List.filter_append]
      rfl
    | paired r c q l =>
      rw [record_paired, List.append_assoc]
      congr 2
      exact (List.filter_append ..).symm

theorem foldl_addUnexpected (f : Findings) (objects : List Object) :
    objects.foldl addUnexpected f = { f with unexpected := f.unexpected ++ objects } := by
  induction objects generalizing f with
  | nil => simp
  | cons o rest ih => simp [ih, addUnexpected]

theorem areEqual_iff : f.areEqual ↔ f.missing = [] ∧ f.unexpected = [] ∧ f.changed = [] := by
  simp [areEqual, and_assoc]

end Findings

/-! ## One kind -/

/-- A pair is reported when it differs, and a pair of containers only when it differs in more than
the name or catalogs take part in telling objects apart. -/
def Reported (p : Policy) (x : ChangedPair) : Prop :=
  x.ledger.entries ≠ [] ∧
    (x.reference.kind = .catalog ∨ x.reference.kind = .schema →
      p.includeCatalog = true ∨ ∃ e ∈ x.ledger.entries, e.1 ≠ .name)

instance (p : Policy) (x : ChangedPair) : Decidable (Reported p x) :=
  inferInstanceAs (Decidable (_ ∧ (_ ∨ _ → _ ∨ _)))

theorem counts_eq_reported (hf : f.includeCatalog = p.includeCatalog) (x : ChangedPair) :
    f.counts x.reference x.ledger = decide (Reported p x) := by
  rw [Bool.eq_iff_iff, decide_eq_true_iff]
  simp [Findings.counts, Reported, Ledger.isEmpty, Ledger.fields, hf]
  grind

namespace Pairing

variable {references objects : List Object}

/-- The pairs with their differences. -/
def compared (m : Pairing references objects) (j : Judge) :
    Except CompareError (List ChangedPair) :=
  m.pairs.mapM fun x => do return ⟨x.1, x.2, ← j.differences (some x.1) (some x.2) []⟩

theorem mem_compared {m : Pairing references objects} {all : List ChangedPair}
    (h : m.compared j = .ok all) {x : ChangedPair} :
    x ∈ all ↔ (x.reference, x.comparison) ∈ m.pairs ∧
      j.differences (some x.reference) (some x.comparison) [] = .ok x.ledger := by
  constructor
  · intro hx
    obtain ⟨pair, hpair, step⟩ := Fallible.exists_of_mem_mapM h hx
    obtain ⟨l, hl, step⟩ := Fallible.bind_eq_ok.1 step
    obtain rfl := Fallible.pure_eq_ok.1 step
    exact ⟨hpair, hl⟩
  · rintro ⟨hpair, hl⟩
    obtain ⟨y, hy, step⟩ := Fallible.exists_mem_of_mapM h hpair
    rw [hl] at step
    cases step
    exact hy

/-- What is paired is judged the same, and nothing is left that could be paired: as far as keys
lead, what stays unpaired on one side is judged different from all that does on the other. -/
structure Settles (m : Pairing references objects) (j : Judge) : Prop where
  same {i : Fin references.length} {q : Fin objects.length} (h : m.partner i = some q) :
    j.same (some (references.get i)) (some (objects.get q)) = .ok true
  meet {i : Fin references.length} {q : Fin objects.length} (h : m.partner i = some q) :
    j.KeysMeet (references.get i) (objects.get q)
  refused {r c : Object} (hr : r ∈ m.unpairedReferences) (hc : c ∈ m.unpairedObjects)
    (h : j.KeysMeet r c) : j.same (some r) (some c) = .ok false

/-- The findings of a kind are those that a pairing leads to. -/
structure Explains (m : Pairing (R.ofKind k) (C.ofKind k)) (j : Judge) (p : Policy)
    (f : Findings) : Prop where
  settles : m.Settles j
  missing : f.missingOf k = m.unpairedReferences.filter fun r => !Findings.standsForExpression r
  unexpected : f.unexpectedOf k = m.unpairedObjects
  changed : ∃ all, m.compared j = .ok all ∧ f.changedOf k = all.filter fun x => Reported p x

end Pairing

namespace Comparison

variable {references objects : List Object}

theorem mem_leftOver {c : Object} :
    c ∈ leftOver outcomes objects ↔ ∃ q, objects[q]? = some c ∧ q ∉ positions outcomes := by
  simp [leftOver, positions, List.mem_zipIdx_iff_getElem?]

theorem Settled.settles_pairing (h : Settled j objects [] references outcomes) :
    h.pairing.Settles j where
  same hq := by
    obtain ⟨l, ho⟩ := h.outcomeAt_eq_paired hq
    exact (h.of_paired_mem (ho ▸ h.outcomeAt_mem _)).2.2.2.1
  meet hq := by
    obtain ⟨l, ho⟩ := h.outcomeAt_eq_paired hq
    exact (h.of_paired_mem (ho ▸ h.outcomeAt_mem _)).2.2.1
  refused {r c} hr hc meet := by
    rw [h.unpairedReferences_pairing] at hr
    rw [h.unpairedObjects_pairing, mem_leftOver] at hc
    obtain ⟨o, ho, hr⟩ := List.mem_filterMap.1 hr
    obtain ⟨q, hc, free⟩ := hc
    cases o with
    | unpaired =>
      cases hr
      exact h.refused_of_unpaired_mem ho hc List.not_mem_nil free meet
    | paired => cases hr

theorem Settled.compared_pairing (h : Settled j objects [] references outcomes) :
    h.pairing.compared j = .ok (outcomes.filterMap Outcome.pair?) := by
  rw [Pairing.compared, h.pairs_pairing, Fallible.mapM_eq_ok, List.forall₂_map_left_iff,
    List.forall₂_same]
  intro x hx
  obtain ⟨o, ho, hx⟩ := List.mem_filterMap.1 hx
  cases o with
  | unpaired => cases hx
  | paired r c q l =>
    cases hx
    simp [(h.of_paired_mem ho).2.2.2.2]

/-- Comparing a kind settles its reference objects and adds what became of them. -/
theorem settled_of_findingsOfKind (h : findingsOfKind j R C f k = .ok g) :
    ∃ (outcomes : List Outcome) (settled : Settled j (C.ofKind k) [] (R.ofKind k) outcomes),
      g = { f with
        missing := f.missing ++
          settled.pairing.unpairedReferences.filter fun r => !Findings.standsForExpression r
        unexpected := f.unexpected ++ settled.pairing.unpairedObjects
        changed := f.changed ++
          (outcomes.filterMap Outcome.pair?).filter fun x => f.counts x.reference x.ledger } := by
  obtain ⟨keys, hkeys, h⟩ := Fallible.bind_eq_ok.1 h
  obtain ⟨outcomes, houtcomes, h⟩ := Fallible.bind_eq_ok.1 h
  have settled := settled_of_pairAll hkeys houtcomes
  refine ⟨outcomes, settled, ?_⟩
  rw [← Fallible.pure_eq_ok.1 h, Findings.foldl_record, Findings.foldl_addUnexpected,
    settled.unpairedReferences_pairing, settled.unpairedObjects_pairing]

/-- Comparing a kind adds what a pairing leads to. -/
theorem findingsOfKind_eq_ok (h : findingsOfKind j R C f k = .ok g) :
    ∃ (m : Pairing (R.ofKind k) (C.ofKind k)) (all : List ChangedPair),
      m.Settles j ∧ m.compared j = .ok all ∧
      g = { f with
        missing := f.missing ++
          m.unpairedReferences.filter fun r => !Findings.standsForExpression r
        unexpected := f.unexpected ++ m.unpairedObjects
        changed := f.changed ++ all.filter fun x => f.counts x.reference x.ledger } := by
  obtain ⟨outcomes, settled, hg⟩ := settled_of_findingsOfKind h
  exact ⟨settled.pairing, _, settled.settles_pairing, settled.compared_pairing, hg⟩

end Comparison

/-! ## All kinds -/

/-- A list is the elements of some kinds, kind by kind. -/
def Grouped {α : Type} (key : α → Kind) (ks : List Kind) (xs : List α) : Prop :=
  xs = ks.flatMap fun k => xs.filter fun x => key x == k

section Grouped

variable {α : Type} {key : α → Kind} {xs new : List α} {l : Kind}

theorem Grouped.key_mem (h : Grouped key ks xs) {x : α} (hx : x ∈ xs) : key x ∈ ks := by
  rw [h] at hx
  obtain ⟨k, hk, hx⟩ := List.mem_flatMap.1 hx
  rwa [eq_of_beq (List.mem_filter.1 hx).2]

theorem filter_append_of_ne (hnew : ∀ x ∈ new, key x = k) (hl : l ≠ k) :
    (xs ++ new).filter (fun x => key x == l) = xs.filter fun x => key x == l := by
  have none : new.filter (fun x => key x == l) = [] := by
    rw [List.filter_eq_nil_iff]
    intro x hx
    simp [hnew x hx, hl.symm]
  rw [List.filter_append, none, List.append_nil]

theorem Grouped.filter_append_self (h : Grouped key ks xs) (hk : k ∉ ks)
    (hnew : ∀ x ∈ new, key x = k) : (xs ++ new).filter (fun x => key x == k) = new := by
  have old : xs.filter (fun x => key x == k) = [] := by
    rw [List.filter_eq_nil_iff]
    rintro x hx hkey
    exact hk (eq_of_beq hkey ▸ h.key_mem hx)
  rw [List.filter_append, old, List.nil_append, List.filter_eq_self]
  intro x hx
  exact beq_iff_eq.2 (hnew x hx)

theorem Grouped.append (h : Grouped key ks xs) (hk : k ∉ ks) (hnew : ∀ x ∈ new, key x = k) :
    Grouped key (ks ++ [k]) (xs ++ new) := by
  rw [Grouped, List.flatMap_append, List.flatMap_singleton, h.filter_append_self hk hnew]
  congr 1
  refine h.trans (List.flatMap_congr fun l hl => ?_)
  exact (filter_append_of_ne hnew fun e => hk (e ▸ hl)).symm

end Grouped

/-- The findings of some kinds are explained by pairings, and nothing else was found. -/
structure Accounted (j : Judge) (p : Policy) (R C : Snapshot) (ks : List Kind) (f : Findings) :
    Prop where
  explained : ∀ k ∈ ks, ∃ m : Pairing (R.ofKind k) (C.ofKind k), m.Explains j p f
  missing : Grouped Object.kind ks f.missing
  unexpected : Grouped Object.kind ks f.unexpected
  changed : Grouped (fun x => x.reference.kind) ks f.changed
  includeCatalog : f.includeCatalog = p.includeCatalog

theorem accounted_start : Accounted j p R C [] (Findings.start R C p) :=
  ⟨by simp, rfl, rfl, rfl, rfl⟩

theorem mem_ofKind {s : Snapshot} {o : Object} :
    o ∈ s.ofKind k ↔ o ∈ s.objects ∧ o.kind = k := by
  simp [Snapshot.ofKind]

theorem map_reference_of_compared {references objects : List Object}
    {m : Pairing references objects} {all : List ChangedPair} (h : m.compared j = .ok all) :
    all.map (·.reference) = m.pairs.map (·.1) := by
  rw [← List.forall₂_eq_eq_eq, List.forall₂_map_left_iff, List.forall₂_map_right_iff]
  refine (Fallible.mapM_eq_ok.1 h).flip.imp ?_
  intro x y hxy
  obtain ⟨l, -, hxy⟩ := Fallible.bind_eq_ok.1 hxy
  rw [← Fallible.pure_eq_ok.1 hxy]

namespace Pairing

/-- Findings together with those that a pairing of objects of a kind leads to. -/
def found {references objects : List Object} (m : Pairing references objects) (f : Findings)
    (all : List ChangedPair) : Findings :=
  { f with
    missing := f.missing ++ m.unpairedReferences.filter fun r => !Findings.standsForExpression r
    unexpected := f.unexpected ++ m.unpairedObjects
    changed := f.changed ++ all.filter fun x => f.counts x.reference x.ledger }

variable {m : Pairing (R.ofKind k) (C.ofKind k)} {all : List ChangedPair} {l : Kind}

theorem kind_of_missing {r : Object}
    (hr : r ∈ m.unpairedReferences.filter fun r => !Findings.standsForExpression r) :
    r.kind = k := by
  have mem := List.mem_append_left (m.pairs.map (·.1)) (List.mem_filter.1 hr).1
  exact (mem_ofKind.1 (m.perm_references.subset mem)).2

theorem kind_of_unexpected {c : Object} (hc : c ∈ m.unpairedObjects) : c.kind = k :=
  (mem_ofKind.1 (m.perm_objects.subset (List.mem_append_left _ hc))).2

theorem kind_of_changed (hall : m.compared j = .ok all) {x : ChangedPair}
    (hx : x ∈ all.filter fun x => f.counts x.reference x.ledger) : x.reference.kind = k := by
  have hx := List.mem_map_of_mem (f := ChangedPair.reference) (List.mem_filter.1 hx).1
  rw [map_reference_of_compared hall] at hx
  exact (mem_ofKind.1 (m.perm_references.subset (List.mem_append_right _ hx))).2

/-- What is found of a new kind is explained by the pairing that leads to it. -/
theorem explains_found (h : Accounted j p R C ks f) (hk : k ∉ ks) (settles : m.Settles j)
    (hall : m.compared j = .ok all) : m.Explains j p (m.found f all) := by
  refine ⟨settles, h.missing.filter_append_self hk fun _ => kind_of_missing,
    h.unexpected.filter_append_self hk fun _ => kind_of_unexpected, all, hall, ?_⟩
  refine (h.changed.filter_append_self hk fun _ => kind_of_changed hall).trans ?_
  simp only [counts_eq_reported h.includeCatalog]

/-- Comparing another kind leaves what is explained. -/
theorem Explains.findingsOfKind (h : m.Explains j p f) (hne : k ≠ l)
    (hg : findingsOfKind j R C f l = .ok g) : m.Explains j p g := by
  obtain ⟨n, all', -, hall', rfl⟩ := findingsOfKind_eq_ok hg
  obtain ⟨all, hall, changed⟩ := h.changed
  refine ⟨h.settles, (filter_append_of_ne (fun _ => kind_of_missing) hne).trans h.missing,
    (filter_append_of_ne (fun _ => kind_of_unexpected) hne).trans h.unexpected, all, hall, ?_⟩
  exact (filter_append_of_ne (fun _ => kind_of_changed hall') hne).trans changed

theorem Explains.foldlM (h : m.Explains j p f) (hk : k ∉ ks)
    (hg : ks.foldlM (Comparison.findingsOfKind j R C) f = .ok g) : m.Explains j p g := by
  induction ks generalizing f with
  | nil =>
    cases hg
    exact h
  | cons l ks ih =>
    obtain ⟨f', hf', hg⟩ := Fallible.bind_eq_ok.1 hg
    rw [List.mem_cons, not_or] at hk
    exact ih (h.findingsOfKind hk.1 hf') hk.2 hg

end Pairing

/-- Comparing one more kind explains its findings and leaves those of the kinds before it. -/
theorem accounted_findingsOfKind (h : Accounted j p R C ks f) (hk : k ∉ ks)
    (hg : findingsOfKind j R C f k = .ok g) : Accounted j p R C (ks ++ [k]) g := by
  obtain ⟨m, all, settles, hall, hfound⟩ := findingsOfKind_eq_ok hg
  have explained : ∀ l ∈ ks ++ [k], ∃ n : Pairing (R.ofKind l) (C.ofKind l),
      n.Explains j p g := by
    intro l hl
    rcases List.mem_append.1 hl with hl | hl
    · obtain ⟨n, explains⟩ := h.explained l hl
      have hne : l ≠ k := by
        intro same
        exact hk (same ▸ hl)
      exact ⟨n, explains.findingsOfKind hne hg⟩
    · obtain rfl := List.mem_singleton.1 hl
      exact ⟨m, hfound ▸ m.explains_found h hk settles hall⟩
  subst hfound
  exact ⟨explained, h.missing.append hk fun _ => m.kind_of_missing,
    h.unexpected.append hk fun _ => m.kind_of_unexpected,
    h.changed.append hk fun _ => m.kind_of_changed hall, h.includeCatalog⟩

theorem accounted_foldlM {rest : List Kind} (h : Accounted j p R C ks f)
    (hnodup : (ks ++ rest).Nodup) (hg : rest.foldlM (findingsOfKind j R C) f = .ok g) :
    Accounted j p R C (ks ++ rest) g := by
  induction rest generalizing ks f with
  | nil =>
    cases hg
    rwa [List.append_nil]
  | cons k rest ih =>
    rw [List.append_cons] at hnodup ⊢
    obtain ⟨f', hf', hg⟩ := Fallible.bind_eq_ok.1 hg
    have hk : k ∉ ks := by
      intro hk
      have apart := (List.nodup_append.1 (List.nodup_append.1 hnodup).1).2.2
      exact apart k hk k List.mem_cons_self rfl
    exact ih (accounted_findingsOfKind h hk hf') hnodup hg

theorem mem_orderedKinds : k ∈ p.orderedKinds ↔ k ∈ p.kinds := by
  cases k <;> simp [Policy.orderedKinds, Kind.all]

theorem flatMap_orderedKinds {α : Type} (found : Kind → List α) :
    p.orderedKinds.flatMap found =
      Kind.all.flatMap fun k => if k ∈ p.kinds then found k else [] := by
  rw [Policy.orderedKinds]
  induction Kind.all with
  | nil => rfl
  | cons k ks ih => by_cases hk : k ∈ p.kinds <;> simp [hk, ih]

theorem nodup_orderedKinds (p : Policy) : p.orderedKinds.Nodup :=
  List.Nodup.filter _ (by decide)

theorem accounted_compareSnapshots (h : compareSnapshots j p R C = .ok f) :
    Accounted j p R C p.orderedKinds f :=
  accounted_foldlM accounted_start (nodup_orderedKinds p) h

/-- What is missing and what is unexpected is not the same, as far as keys lead. -/
theorem same_of_missing_of_unexpected (h : compareSnapshots j p R C = .ok f) {a b : Object}
    (ha : a ∈ f.missing) (hb : b ∈ f.unexpected) (hkind : b.kind = a.kind)
    (meet : j.KeysMeet a b) : j.same (some a) (some b) = .ok false := by
  have accounted := accounted_compareSnapshots h
  obtain ⟨m, explains⟩ := accounted.explained a.kind (accounted.missing.key_mem ha)
  have ha : a ∈ f.missingOf a.kind := List.mem_filter.2 ⟨ha, beq_self_eq_true _⟩
  have hb : b ∈ f.unexpectedOf a.kind := List.mem_filter.2 ⟨hb, beq_iff_eq.2 hkind⟩
  rw [explains.missing] at ha
  rw [explains.unexpected] at hb
  exact explains.settles.refused (List.mem_filter.1 ha).1 hb meet

/-- Every run is told by one pairing for each compared kind. What stays unpaired on either side is
missing or unexpected, columns that stand for expressions apart, and the pairs that differ have
changed; each list holds nothing else and goes kind by kind. So no object is lost, told twice, or
put in two places. -/
theorem findings_explained (h : compareSnapshots j p R C = .ok f) :
    (∀ k ∈ p.kinds, ∃ m : Pairing (R.ofKind k) (C.ofKind k), m.Explains j p f ∧
      (m.unpairedReferences ++ m.pairs.map (·.1)).Perm (R.ofKind k) ∧
      (m.unpairedObjects ++ m.pairs.map (·.2)).Perm (C.ofKind k)) ∧
    f.missing = p.orderedKinds.flatMap f.missingOf ∧
    f.unexpected = p.orderedKinds.flatMap f.unexpectedOf ∧
    f.changed = p.orderedKinds.flatMap f.changedOf := by
  have accounted := accounted_compareSnapshots h
  refine ⟨?_, accounted.missing, accounted.unexpected, accounted.changed⟩
  intro k hk
  obtain ⟨m, explains⟩ := accounted.explained k (mem_orderedKinds.2 hk)
  exact ⟨m, explains, m.perm_references, m.perm_objects⟩

/-- A schema of which no more than its name is known. -/
def bareSchema (origin position : Nat) (name : String) : Object :=
  .schema ⟨.entry origin .schema position, some name, none, false, []⟩

/-- A policy under which the schema `sales` became `crm`. -/
def salesRenamed : Policy :=
  { Policy.standard with
    aliases := [⟨⟨none, some "sales"⟩, ⟨none, some "crm"⟩⟩], includeCatalog := true }

theorem findings_explained_salesRenamed :
    let j := (Rulebook.builtin .generic).judge .generic salesRenamed
    let R : Snapshot := ⟨none, none, [bareSchema 0 0 "sales", bareSchema 0 1 "audit"]⟩
    let C : Snapshot := ⟨none, none, [bareSchema 1 0 "log", bareSchema 1 1 "crm"]⟩
    ∃ f, compareSnapshots j salesRenamed R C = .ok f ∧
      f.missing = [bareSchema 0 1 "audit"] ∧ f.unexpected = [bareSchema 1 0 "log"] ∧
      f.changed.map (·.comparison) = [bareSchema 1 1 "crm"] ∧
      f.changed = salesRenamed.orderedKinds.flatMap f.changedOf := by
  intro j R C
  have run : compareSnapshots j salesRenamed R C = .ok _ := rfl
  exact ⟨_, run, rfl, rfl, rfl, (findings_explained run).2.2.2⟩

end SchemaDelta

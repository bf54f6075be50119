import SchemaDelta.Proofs.Account

/-!
# Mirrored snapshots

When the comparison holds a copy of every reference object at its position, the objects
that are the same as their copies are paired with them, however many others are the same
as well: the copies before it are taken by the time an object is settled. Objects that
are not the same as any copy are told missing, and their copies unexpected.

## Main definitions

* `Reflects` — the copies of some objects are the same as these, but for lone ones.
* `Mirrors` — and they do not differ in anything that is reported.
-/

namespace SchemaDelta

open Comparison

/-- Every object has a copy that its keys lead to. A lone object and its copy are not the same as
any other; any other object is the same as its copy, and how they differ is known. -/
structure Reflects (j : Judge) (copy : Object → Object) (lone : Object → Bool)
    (ledger : Object → Ledger) (objects : List Object) : Prop where
  meet : ∀ o ∈ objects, j.KeysMeet o (copy o)
  same : ∀ o ∈ objects, lone o = false → j.same (some o) (some (copy o)) = .ok true
  apart : ∀ o ∈ objects, ∀ o' ∈ objects, lone o = true ∨ lone o' = true →
    j.same (some o) (some (copy o')) = .ok false
  differ : ∀ o ∈ objects, lone o = false →
    j.differences (some o) (some (copy o)) [] = .ok (ledger o)

/-- Every object that is not lone has a copy from which it differs in nothing that is reported. -/
structure Mirrors (j : Judge) (p : Policy) (copy : Object → Object) (lone : Object → Bool)
    (ledger : Object → Ledger) (objects : List Object) : Prop
    extends Reflects j copy lone ledger objects where
  unreported : ∀ o ∈ objects, lone o = false → ¬Reported p ⟨o, copy o, ledger o⟩

namespace Reflects

variable {j : Judge} {p : Policy} {copy : Object → Object} {lone : Object → Bool}
  {ledger : Object → Ledger} {objects before rest : List Object} {taken : List Nat} {r : Object}

theorem mono (h : Reflects j copy lone ledger objects) {chosen : List Object}
    (hsub : ∀ o ∈ chosen, o ∈ objects) : Reflects j copy lone ledger chosen where
  meet o ho := h.meet o (hsub o ho)
  same o ho := h.same o (hsub o ho)
  apart o ho o' ho' := h.apart o (hsub o ho) o' (hsub o' ho')
  differ o ho := h.differ o (hsub o ho)

/-- What becomes of an object whose copy is at a position. -/
def outcome (copy : Object → Object) (lone : Object → Bool) (ledger : Object → Ledger)
    (placed : Object × Nat) : Outcome :=
  if lone placed.1 then .unpaired placed.1
  else .paired placed.1 (copy placed.1) placed.2 (ledger placed.1)

/-- The positions of the copies that are taken when the objects up to some were settled. -/
def Taken (lone : Object → Bool) (before : List Object) (taken : List Nat) : Prop :=
  ∀ q, q ∈ taken ↔ ∃ o, before[q]? = some o ∧ lone o = false

theorem Taken.lt (h : Taken lone before taken) {q : Nat} (hq : q ∈ taken) : q < before.length := by
  obtain ⟨o, ho, -⟩ := (h q).1 hq
  exact (List.getElem?_eq_some_iff.1 ho).1

theorem taken_nil : Taken lone [] [] := fun q => by simp

theorem Taken.snoc_lone (h : Taken lone before taken) (hr : lone r = true) :
    Taken lone (before ++ [r]) taken := by
  intro q
  rw [h q]
  grind

theorem Taken.snoc_paired (h : Taken lone before taken) (hr : lone r = false) :
    Taken lone (before ++ [r]) (before.length :: taken) := by
  intro q
  rw [List.mem_cons, h q]
  grind

/-- An object finds its copy, or no other, when those before it were settled. -/
theorem settled (before : List Object) (h : Reflects j copy lone ledger (before ++ rest))
    (htaken : Taken lone before taken) :
    Settled j ((before ++ rest).map copy) taken rest
      ((rest.zipIdx before.length).map (outcome copy lone ledger)) := by
  induction rest generalizing before taken with
  | nil => exact .done
  | cons r rest ih =>
    have split : before ++ r :: rest = (before ++ [r]) ++ rest := by simp
    have hr : r ∈ before ++ r :: rest := by simp
    have later (taken : List Nat) (htaken : Taken lone (before ++ [r]) taken) :
        Settled j ((before ++ r :: rest).map copy) taken rest
          ((rest.zipIdx (before.length + 1)).map (outcome copy lone ledger)) := by
      rw [split] at h ⊢
      simpa using ih _ h htaken
    have copied {q : Nat} {c : Object} (hc : ((before ++ r :: rest).map copy)[q]? = some c) :
        ∃ o, (before ++ r :: rest)[q]? = some o ∧ o ∈ before ++ r :: rest ∧ copy o = c := by
      rw [List.getElem?_map, Option.map_eq_some_iff] at hc
      obtain ⟨o, ho, rfl⟩ := hc
      exact ⟨o, ho, List.mem_of_getElem? ho, rfl⟩
    rw [List.zipIdx_cons, List.map_cons, outcome]
    cases hlone : lone r with
    | true =>
      refine .unpaired (fun q _ _ _ _ _ c hc => ?_) (later taken (htaken.snoc_lone hlone))
      obtain ⟨o, -, ho, rfl⟩ := copied hc
      exact h.apart r hr o ho (.inl hlone)
    | false =>
      refine .paired (by simp) (fun hq => absurd (htaken.lt hq) (lt_irrefl _)) (h.meet r hr)
        (h.same r hr hlone) (fun q hlt _ _ _ free c hc => ?_) (h.differ r hr hlone)
        (later _ (htaken.snoc_paired hlone))
      -- the copy before is free, so it is a lone one
      obtain ⟨o, ho, mem, rfl⟩ := copied hc
      refine h.apart r hr o mem (.inr ?_)
      rw [List.getElem?_append_left hlt] at ho
      by_contra hpaired
      exact free ((htaken q).2 ⟨o, ho, by simpa using hpaired⟩)

/-! ## What the outcomes tell -/

theorem unpaired_outcomes (objects : List Object) (n : Nat) :
    ((objects.zipIdx n).map (outcome copy lone ledger)).filterMap Outcome.unpaired? =
      objects.filter lone := by
  induction objects generalizing n with
  | nil => rfl
  | cons o objects ih =>
    cases ho : lone o <;> simp [outcome, Outcome.unpaired?, List.filterMap_cons, ho, ih]

theorem pairs_outcomes (objects : List Object) (n : Nat) :
    ((objects.zipIdx n).map (outcome copy lone ledger)).filterMap Outcome.pair? =
      (objects.filter fun o => !lone o).map fun o => ⟨o, copy o, ledger o⟩ := by
  induction objects generalizing n with
  | nil => rfl
  | cons o objects ih =>
    cases ho : lone o <;> simp [outcome, Outcome.pair?, List.filterMap_cons, ho, ih]

theorem mem_positions_outcomes {q : Nat} :
    q ∈ positions (objects.zipIdx.map (outcome copy lone ledger)) ↔
      ∃ o, objects[q]? = some o ∧ lone o = false := by
  have position (o : Object) (i : Nat) :
      (outcome copy lone ledger (o, i)).position? = if lone o then none else some i := by
    unfold outcome
    cases lone o <;> rfl
  simp only [positions, List.filterMap_map, List.mem_filterMap, Prod.exists,
    List.mem_zipIdx_iff_getElem?, Function.comp_apply, position]
  grind

theorem leftOver_outcomes :
    leftOver (objects.zipIdx.map (outcome copy lone ledger)) (objects.map copy) =
      (objects.filter lone).map copy := by
  have placed : (objects.map copy).zipIdx = objects.zipIdx.map fun o => (copy o.1, o.2) := by
    rw [List.zipIdx_map]
    rfl
  have free : ∀ o ∈ objects.zipIdx,
      (!(positions (objects.zipIdx.map (outcome copy lone ledger))).contains o.2) = lone o.1 := by
    rintro ⟨o, q⟩ ho
    have ho := List.mem_zipIdx_iff_getElem?.1 ho
    rw [Bool.eq_iff_iff, Bool.not_eq_true', List.contains_eq_mem, decide_eq_false_iff_not,
      mem_positions_outcomes]
    simp [ho]
  calc
    leftOver (objects.zipIdx.map (outcome copy lone ledger)) (objects.map copy) =
        (objects.zipIdx.filter fun o => lone o.1).map fun o => copy o.1 := by
      rw [leftOver, placed, List.filter_map, List.map_map]
      exact congrArg _ (List.filter_congr free)
    _ = ((objects.zipIdx.map Prod.fst).filter lone).map copy := by
      rw [List.filter_map, List.map_map]
      rfl
    _ = (objects.filter lone).map copy := by rw [List.zipIdx_map_fst]

/-! ## Comparing mirrored snapshots -/

variable {R C : Snapshot} {f : Findings} {k : Kind}

/-- The objects of a kind that differ from their copies in something that is reported. -/
def changedOf (p : Policy) (copy : Object → Object) (lone : Object → Bool)
    (ledger : Object → Ledger) (R : Snapshot) (k : Kind) : List ChangedPair :=
  (((R.ofKind k).filter fun o => !lone o).map fun o => ⟨o, copy o, ledger o⟩).filter fun x =>
    Reported p x

theorem findingsOfKind_eq_ok (h : Reflects j copy lone ledger (R.ofKind k))
    (hC : C.ofKind k = (R.ofKind k).map copy) (hf : f.includeCatalog = p.includeCatalog) :
    findingsOfKind j R C f k = .ok { f with
      missing := f.missing ++
        ((R.ofKind k).filter lone).filter fun o => !Findings.standsForExpression o
      unexpected := f.unexpected ++ ((R.ofKind k).filter lone).map copy
      changed := f.changed ++ changedOf p copy lone ledger R k } := by
  have copies : ∀ c ∈ (R.ofKind k).map copy, ∃ ks, j.keys c = .ok ks := by
    intro c hc
    obtain ⟨o, ho, rfl⟩ := List.mem_map.1 hc
    obtain ⟨_, ks, -, hks, -⟩ := h.meet o ho
    exact ⟨ks, hks⟩
  have known : ∀ r ∈ R.ofKind k, ∃ ks, j.keys r = .ok ks := by
    intro r hr
    obtain ⟨ks, _, hks, -⟩ := h.meet r hr
    exact ⟨ks, hks⟩
  obtain ⟨keys, hkeys⟩ := Fallible.exists_mapM_eq_ok copies
  have run : pairAll j ((R.ofKind k).map copy).toArray (Buckets.ofKeys keys) [] (R.ofKind k) =
      .ok ((R.ofKind k).zipIdx.map (outcome copy lone ledger)) :=
    (settled [] h taken_nil).pairAll_eq_ok hkeys known
  rw [findingsOfKind, hC, hkeys, Fallible.ok_bind, run, Fallible.ok_bind, Fallible.pure_eq,
    Findings.foldl_record, Findings.foldl_addUnexpected, unpaired_outcomes, pairs_outcomes,
    leftOver_outcomes]
  simp only [counts_eq_reported hf, changedOf]

/-- Of mirrored snapshots the lone objects are missing and their copies unexpected, and all others
are compared with their copies. -/
theorem compareSnapshots_eq_ok (h : Reflects j copy lone ledger R.objects)
    (hC : C.objects = R.objects.map copy) (hcopy : ∀ o ∈ R.objects, (copy o).kind = o.kind) :
    compareSnapshots j p R C = .ok { Findings.start R C p with
      missing := p.orderedKinds.flatMap fun k =>
        ((R.ofKind k).filter lone).filter fun o => !Findings.standsForExpression o
      unexpected := p.orderedKinds.flatMap fun k => ((R.ofKind k).filter lone).map copy
      changed := p.orderedKinds.flatMap (changedOf p copy lone ledger R) } := by
  have ofKind (k : Kind) : C.ofKind k = (R.ofKind k).map copy := by
    rw [Snapshot.ofKind, hC, List.filter_map]
    refine congrArg _ (List.filter_congr fun o ho => ?_)
    rw [Function.comp_apply, hcopy o ho]
  have fold (ks : List Kind) (f : Findings) (hf : f.includeCatalog = p.includeCatalog) :
      ks.foldlM (findingsOfKind j R C) f = .ok { f with
        missing := f.missing ++ ks.flatMap fun k =>
          ((R.ofKind k).filter lone).filter fun o => !Findings.standsForExpression o
        unexpected :=
          f.unexpected ++ ks.flatMap fun k => ((R.ofKind k).filter lone).map copy
        changed := f.changed ++ ks.flatMap (changedOf p copy lone ledger R) } := by
    induction ks generalizing f with
    | nil => simp [Fallible.pure_eq]
    | cons k ks ih =>
      have step := (h.mono fun o ho => (mem_ofKind.1 ho).1).findingsOfKind_eq_ok (ofKind k) hf
      rw [List.foldlM_cons, step, Fallible.ok_bind, ih]
      · simp
      · exact hf
  exact (fold p.orderedKinds _ rfl).trans (by simp [Findings.start])

end Reflects

namespace Mirrors

variable {j : Judge} {p : Policy} {copy : Object → Object} {lone : Object → Bool}
  {ledger : Object → Ledger} {R C : Snapshot}

/-- Of mirrored snapshots the lone objects are missing and their copies unexpected, and nothing has
changed. -/
theorem compareSnapshots_eq_ok (h : Mirrors j p copy lone ledger R.objects)
    (hC : C.objects = R.objects.map copy) (hcopy : ∀ o ∈ R.objects, (copy o).kind = o.kind) :
    compareSnapshots j p R C = .ok { Findings.start R C p with
      missing := p.orderedKinds.flatMap fun k =>
        ((R.ofKind k).filter lone).filter fun o => !Findings.standsForExpression o
      unexpected := p.orderedKinds.flatMap fun k => ((R.ofKind k).filter lone).map copy } := by
  have unchanged : p.orderedKinds.flatMap (Reflects.changedOf p copy lone ledger R) = [] := by
    rw [List.flatMap_eq_nil_iff]
    intro k _
    rw [Reflects.changedOf, List.filter_eq_nil_iff]
    intro x hx
    obtain ⟨o, ho, rfl⟩ := List.mem_map.1 hx
    obtain ⟨ho, paired⟩ := List.mem_filter.1 ho
    simpa using h.unreported o (mem_ofKind.1 ho).1 (by simpa using paired)
  rw [h.toReflects.compareSnapshots_eq_ok hC hcopy, unchanged]
  rfl

end Mirrors

end SchemaDelta

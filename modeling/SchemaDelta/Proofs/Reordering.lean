import SchemaDelta.Proofs.Meeting
import SchemaDelta.Proofs.Scan

/-!
# The order of the comparison

The order in which a snapshot lists its objects decides which of several objects that are
judged the same is taken as the partner. Where no reference object is the same as two
different objects, each search among the same free objects has the same result, whatever
their order, and so has the comparison.

## Main definitions

* `Judge.Singles` — no reference object is the same as two different objects.
* `Findings.Alike` — findings that differ in the order of what is unexpected only.
-/

namespace SchemaDelta

/-- Keys and sameness are known, and no reference object is the same as two different objects. -/
structure Judge.Singles (j : Judge) (references objects : List Object) : Prop where
  keys : ∀ o ∈ references ++ objects, ∃ ks, j.keys o = .ok ks
  same : ∀ r ∈ references, ∀ c ∈ objects, ∃ b, j.same (some r) (some c) = .ok b
  single : ∀ r ∈ references, ∀ c ∈ objects, ∀ c' ∈ objects, j.same (some r) (some c) = .ok true →
    j.same (some r) (some c') = .ok true → c = c'

/-- One misses and changes what the other does, in the same order, and has the same objects
unexpected in some order. -/
structure Findings.Alike (f g : Findings) : Prop where
  missing : f.missing = g.missing
  changed : f.changed = g.changed
  unexpected : f.unexpected.Perm g.unexpected
  includeCatalog : f.includeCatalog = g.includeCatalog

namespace Comparison

variable {j : Judge} {objects objects' references : List Object} {taken taken' : List Nat}
  {r c : Object} {p : Nat}

/-! ## One search -/

theorem mem_freeOf_zipIdx :
    c ∈ freeOf taken objects.zipIdx ↔ ∃ q, objects[q]? = some c ∧ q ∉ taken := by
  simp [freeOf, List.mem_zipIdx_iff_getElem?]

/-- Taking up a free position takes its object from what is free. -/
theorem perm_freeOf_cons {placed : List (Object × Nat)} (mem : (c, p) ∈ placed)
    (hnodup : (placed.map (·.2)).Nodup) (free : p ∉ taken) :
    (freeOf taken placed).Perm (c :: freeOf (p :: taken) placed) := by
  induction placed with
  | nil => cases mem
  | cons o placed ih =>
    obtain ⟨d, q⟩ := o
    obtain ⟨hq, hnodup⟩ : q ∉ placed.map (·.2) ∧ (placed.map (·.2)).Nodup :=
      List.nodup_cons.1 hnodup
    rcases List.mem_cons.1 mem with heq | mem
    · cases heq
      rw [freeOf_cons_of_not_mem free, freeOf_cons_taken hq]
    · have hne : q ≠ p := by
        rintro rfl
        exact hq (List.mem_map.2 ⟨_, mem, rfl⟩)
      have ih := ih mem hnodup
      by_cases htaken : q ∈ taken
      · rw [freeOf_cons_of_mem htaken, freeOf_cons_of_mem (List.mem_cons_of_mem p htaken)]
        exact ih
      · rw [freeOf_cons_of_not_mem htaken,
          freeOf_cons_of_not_mem (by simp [hne, htaken])]
        exact (ih.cons d).trans (.swap c d _)

theorem exists_firstFree?_eq_ok (h : ∀ c ∈ objects, ∃ b, j.same (some r) (some c) = .ok b)
    (taken ps : List Nat) : ∃ found, firstFree? j objects.toArray taken r ps = .ok found := by
  induction ps with
  | nil => exact ⟨none, rfl⟩
  | cons p ps ih =>
    obtain ⟨found, hfound⟩ := ih
    rw [firstFree?, List.getElem?_toArray, hfound]
    cases hc : objects[p]? with
    | none => exact ⟨found, rfl⟩
    | some c =>
      obtain ⟨b, hb⟩ := h c (List.mem_of_getElem? hc)
      by_cases htaken : p ∈ taken
      · exact ⟨found, by simp [htaken]⟩
      · cases b with
        | true => exact ⟨some (p, c), by simp [htaken, hb, Fallible.pure_eq]⟩
        | false => exact ⟨found, by simp [htaken, hb]⟩

/-- What a search finds is a free object with keys that meet that is judged the same; it finds
nothing only when there is none. -/
inductive Found (j : Judge) (objects : List Object) (taken : List Nat) (r : Object) :
    Option (Nat × Object) → Prop where
  | nothing (h : ∀ c ∈ freeOf taken objects.zipIdx, j.KeysMeet r c →
      j.same (some r) (some c) = .ok false) : Found j objects taken r none
  | partner {p : Nat} {c : Object} (meet : j.KeysMeet r c)
      (same : j.same (some r) (some c) = .ok true)
      (free : (freeOf taken objects.zipIdx).Perm (c :: freeOf (p :: taken) objects.zipIdx)) :
      Found j objects taken r (some (p, c))

theorem found_of_firstFree?_eq_ok {keys : List Keys} {ks : Keys} {found : Option (Nat × Object)}
    (hkeys : objects.mapM j.keys = .ok keys) (hr : j.keys r = .ok ks)
    (h : firstFree? j objects.toArray taken r ((Buckets.ofKeys keys).candidates ks) = .ok found) :
    Found j objects taken r found := by
  have mem {q : Nat} := mem_candidates_iff_keysMeet (q := q) hkeys hr
  cases found with
  | none =>
    refine .nothing fun c hc meet => ?_
    obtain ⟨q, hq, free⟩ := mem_freeOf_zipIdx.1 hc
    exact refused_of_firstFree?_eq_none h q (mem.2 ⟨c, hq, meet⟩) free c hq
  | some found =>
    obtain ⟨p, c⟩ := found
    obtain ⟨before, after, split, hc, free, same, -⟩ := split_of_firstFree?_eq_some h
    obtain ⟨d, hd, meet⟩ := mem.1 (split ▸ List.mem_append_right _ List.mem_cons_self)
    obtain rfl := Option.some.inj (hc.symm.trans hd)
    have placed : (c, p) ∈ objects.zipIdx := List.mem_zipIdx_iff_getElem?.2 hc
    have hnodup : (objects.zipIdx.map (·.2)).Nodup := by
      rw [List.zipIdx_map_snd]
      exact List.nodup_range'
    exact .partner meet same (perm_freeOf_cons placed hnodup free)

/-- Searches among the same free objects find the same one and leave the same ones. -/
theorem Found.rel {found found' : Option (Nat × Object)} (h : Found j objects taken r found)
    (h' : Found j objects' taken' r found')
    (single : ∀ c ∈ objects, ∀ c' ∈ objects, j.same (some r) (some c) = .ok true →
      j.same (some r) (some c') = .ok true → c = c')
    (free : (freeOf taken objects.zipIdx).Perm (freeOf taken' objects'.zipIdx)) :
    Option.Rel (fun x y => x.2 = y.2 ∧ (freeOf (x.1 :: taken) objects.zipIdx).Perm
      (freeOf (y.1 :: taken') objects'.zipIdx)) found found' := by
  have mem {c : Object} (hc : c ∈ freeOf taken objects.zipIdx) : c ∈ objects := by
    obtain ⟨q, hq, -⟩ := mem_freeOf_zipIdx.1 hc
    exact List.mem_of_getElem? hq
  cases h with
  | nothing nothing =>
    cases h' with
    | nothing => exact .none
    | partner meet same left =>
      have hc := free.symm.subset (left.symm.subset List.mem_cons_self)
      simp [nothing _ hc meet] at same
  | @partner p c meet same left =>
    have hc := left.symm.subset List.mem_cons_self
    cases h' with
    | nothing nothing => simp [nothing c (free.subset hc) meet] at same
    | @partner p' c' _ same' left' =>
      have hc' := free.symm.subset (left'.symm.subset List.mem_cons_self)
      obtain rfl := single c (mem hc) c' (mem hc') same same'
      exact .some ⟨rfl, ((left.symm.trans free).trans left').cons_inv⟩

/-! ## Whole runs -/

/-- The same objects stay unpaired, the same pairs are made, and the same objects are left over. -/
structure SameOutcomes (objects objects' : List Object) (taken taken' : List Nat)
    (outcomes outcomes' : List Outcome) : Prop where
  unpaired : outcomes.filterMap Outcome.unpaired? = outcomes'.filterMap Outcome.unpaired?
  pairs : outcomes.filterMap Outcome.pair? = outcomes'.filterMap Outcome.pair?
  left : (freeOf (positions outcomes ++ taken) objects.zipIdx).Perm
    (freeOf (positions outcomes' ++ taken') objects'.zipIdx)

variable {outcomes outcomes' : List Outcome}

theorem SameOutcomes.unpaired_cons
    (h : SameOutcomes objects objects' taken taken' outcomes outcomes') (r : Object) :
    SameOutcomes objects objects' taken taken' (.unpaired r :: outcomes)
      (.unpaired r :: outcomes') :=
  ⟨congrArg (List.cons r) h.unpaired, h.pairs, h.left⟩

theorem freeOf_positions_paired (placed : List (Object × Nat)) (l : Ledger) :
    freeOf (positions (.paired r c p l :: outcomes) ++ taken) placed =
      freeOf (positions outcomes ++ p :: taken) placed := by
  refine freeOf_congr fun o _ => ?_
  simp [positions, Outcome.position?, or_left_comm]

theorem SameOutcomes.paired_cons {p' : Nat}
    (h : SameOutcomes objects objects' (p :: taken) (p' :: taken') outcomes outcomes')
    (r c : Object) (l : Ledger) :
    SameOutcomes objects objects' taken taken' (.paired r c p l :: outcomes)
      (.paired r c p' l :: outcomes') := by
  refine ⟨h.unpaired, congrArg (List.cons (⟨r, c, l⟩ : ChangedPair)) h.pairs, ?_⟩
  rw [freeOf_positions_paired, freeOf_positions_paired]
  exact h.left

theorem pairAll_rel {keys keys' : List Keys} (hkeys : objects.mapM j.keys = .ok keys)
    (hkeys' : objects'.mapM j.keys = .ok keys') (mem : ∀ c, c ∈ objects' → c ∈ objects)
    (singles : j.Singles references objects)
    (free : (freeOf taken objects.zipIdx).Perm (freeOf taken' objects'.zipIdx)) :
    Fallible.Rel (SameOutcomes objects objects' taken taken')
      (pairAll j objects.toArray (Buckets.ofKeys keys) taken references)
      (pairAll j objects'.toArray (Buckets.ofKeys keys') taken' references) := by
  induction references generalizing taken taken' with
  | nil => exact .ok ⟨rfl, rfl, free⟩
  | cons r rest ih =>
    have later : j.Singles rest objects :=
      ⟨fun o ho => singles.keys o (List.mem_cons_of_mem _ ho),
        fun r hr => singles.same r (List.mem_cons_of_mem _ hr),
        fun r hr => singles.single r (List.mem_cons_of_mem _ hr)⟩
    have same := singles.same r List.mem_cons_self
    obtain ⟨ks, hr⟩ := singles.keys r List.mem_cons_self
    obtain ⟨found, hfound⟩ := exists_firstFree?_eq_ok same taken
      ((Buckets.ofKeys keys).candidates ks)
    obtain ⟨found', hfound'⟩ := exists_firstFree?_eq_ok (fun c hc => same c (mem c hc))
      taken' ((Buckets.ofKeys keys').candidates ks)
    have partners := (found_of_firstFree?_eq_ok hkeys hr hfound).rel
      (found_of_firstFree?_eq_ok hkeys' hr hfound') (singles.single r List.mem_cons_self) free
    simp only [pairAll, hr, hfound, hfound', Fallible.ok_bind]
    cases partners with
    | none => exact (ih later free).bind fun _ _ h => .ok (h.unpaired_cons r)
    | @some x y h =>
      obtain ⟨p, c⟩ := x
      obtain ⟨p', c'⟩ := y
      obtain ⟨rfl, free⟩ := h
      refine (Fallible.Rel.of_eq _).bind fun l l' h => ?_
      subst h
      exact (ih later free).bind fun _ _ h => .ok (h.paired_cons r c l)

variable {R C C' : Snapshot} {k : Kind} {f g : Findings}

theorem findingsOfKind_rel (singles : j.Singles (R.ofKind k) (C.ofKind k))
    (hC : (C.ofKind k).Perm (C'.ofKind k)) (h : f.Alike g) :
    Fallible.Rel Findings.Alike (findingsOfKind j R C f k) (findingsOfKind j R C' g k) := by
  obtain ⟨keys, hkeys⟩ := Fallible.exists_mapM_eq_ok fun c (hc : c ∈ C.ofKind k) =>
    singles.keys c (List.mem_append_right _ hc)
  obtain ⟨keys', hkeys'⟩ := Fallible.exists_mapM_eq_ok fun c (hc : c ∈ C'.ofKind k) =>
    singles.keys c (List.mem_append_right _ (hC.symm.subset hc))
  have all (objects : List Object) : freeOf [] objects.zipIdx = objects := by
    simp [freeOf, List.zipIdx_map_fst]
  have free : (freeOf [] (C.ofKind k).zipIdx).Perm (freeOf [] (C'.ofKind k).zipIdx) := by
    rwa [all, all]
  have run := pairAll_rel hkeys hkeys' (fun c hc => hC.symm.subset hc) singles free
  rw [findingsOfKind, findingsOfKind, hkeys, hkeys', Fallible.ok_bind, Fallible.ok_bind]
  refine run.bind fun outcomes outcomes' same => .ok ?_
  rw [Findings.foldl_record, Findings.foldl_record, Findings.foldl_addUnexpected,
    Findings.foldl_addUnexpected]
  refine ⟨?_, ?_, ?_, h.includeCatalog⟩
  · simp [h.missing, same.unpaired]
  · simp [h.changed, same.pairs, Findings.counts, h.includeCatalog]
  · refine h.unexpected.append ?_
    have left := same.left
    rwa [List.append_nil, List.append_nil] at left

end Comparison

/-- Where no reference object is the same as two different objects, the order in which these are
listed decides at most in which order they are told unexpected. -/
theorem Judge.Singles.compareSnapshots_rel {j : Judge} {p : Policy} {R C C' : Snapshot}
    (singles : ∀ k, j.Singles (R.ofKind k) (C.ofKind k))
    (hC : ∀ k, (C.ofKind k).Perm (C'.ofKind k)) :
    Fallible.Rel Findings.Alike (compareSnapshots j p R C) (compareSnapshots j p R C') := by
  refine Fallible.Rel.foldlM (fun f g k h => ?_) p.orderedKinds ?_
  · exact Comparison.findingsOfKind_rel (singles k) (hC k) h
  · exact ⟨rfl, rfl, .refl _, rfl⟩

/-- The built-in rules search without keys as they do with them when keys never keep apart what is
the same. -/
theorem Rulebook.judge_sound {d : Dialect} {p : Policy} {references objects : List Object}
    (h : ∀ r ∈ references, ∀ c ∈ objects, Identity.same d p r c = true →
      Buckets.Meet (Identity.keysOf r) (Identity.keysOf c)) :
    ((builtin d).judge d p).Sound references objects where
  keys o _ := ⟨_, judge_keys o⟩
  same r _ c _ := ⟨_, judge_same r c⟩
  meet r hr c hc hsame := by
    rw [judge_same, Except.ok.injEq] at hsame
    exact judge_keysMeet_iff.2 (h r hr c hc hsame)

/-- Comparing under the built-in rules is scanning, when keys never keep apart what is the same. -/
theorem Rulebook.compareSnapshots_eq_scan {d : Dialect} {p : Policy} {R C : Snapshot}
    (h : ∀ r ∈ R.objects, ∀ c ∈ C.objects, Identity.same d p r c = true →
      Buckets.Meet (Identity.keysOf r) (Identity.keysOf c)) :
    compareSnapshots ((builtin d).judge d p) p R C = scanSnapshots ((builtin d).judge d p) p R C :=
  Fallible.foldlM_congr
    (fun f _ _ => Comparison.findingsOfKind_eq_scan
      (judge_sound fun r hr c hc => h r (mem_ofKind.1 hr).1 c (mem_ofKind.1 hc).1) f) _

/-- Where no reference object is the same as two different objects of the comparison, comparing
with its objects in another order finds the same: the same are missing, the same pairs have
changed, and the same are unexpected, up to order; or both fail with one error. -/
theorem compareSnapshots_reordered {d : Dialect} {p : Policy} {R C C' : Snapshot}
    (single : ∀ r ∈ R.objects, ∀ c ∈ C.objects, ∀ c' ∈ C.objects,
      ((Rulebook.builtin d).judge d p).same (some r) (some c) = .ok true →
      ((Rulebook.builtin d).judge d p).same (some r) (some c') = .ok true → c = c')
    (hC : ∀ k, (C.ofKind k).Perm (C'.ofKind k)) :
    Fallible.Rel Findings.Alike (compareSnapshots ((Rulebook.builtin d).judge d p) p R C)
      (compareSnapshots ((Rulebook.builtin d).judge d p) p R C') := by
  have mem {s : Snapshot} {k : Kind} {o : Object} (h : o ∈ s.ofKind k) : o ∈ s.objects :=
    (mem_ofKind.1 h).1
  refine Judge.Singles.compareSnapshots_rel (fun k => ⟨?_, ?_, ?_⟩) hC
  · exact fun o _ => ⟨_, Rulebook.judge_keys o⟩
  · exact fun r _ c _ => ⟨_, Rulebook.judge_same r c⟩
  · exact fun r hr c hc c' hc' => single r (mem hr) c (mem hc) c' (mem hc')

/-- Two tables are unexpected, and either run tells them as its comparison lists them. -/
theorem compareSnapshots_reordered_orders :
    let j := (Rulebook.builtin .generic).judge .generic .standard
    let R : Snapshot := ⟨none, none, [bareTable 0 0 "ORDERS"]⟩
    let C : Snapshot :=
      ⟨none, none, [bareTable 1 0 "tags", bareTable 1 1 "orders", bareTable 1 2 "log"]⟩
    let C' : Snapshot :=
      ⟨none, none, [bareTable 1 2 "log", bareTable 1 1 "orders", bareTable 1 0 "tags"]⟩
    Fallible.Rel Findings.Alike (compareSnapshots j .standard R C)
        (compareSnapshots j .standard R C') ∧
      (compareSnapshots j .standard R C).map (fun f => (f.missing, f.unexpected)) =
        .ok ([], [bareTable 1 0 "tags", bareTable 1 2 "log"]) ∧
      (compareSnapshots j .standard R C').map (fun f => (f.missing, f.unexpected)) =
        .ok ([], [bareTable 1 2 "log", bareTable 1 0 "tags"]) := by
  intro j R C C'
  refine ⟨compareSnapshots_reordered ?_ fun k => .filter _ (List.reverse_perm C.objects).symm, ?_⟩
  · simp only [Rulebook.judge_same]
    decide +kernel
  · rw [Rulebook.compareSnapshots_eq_scan (by decide +kernel),
      Rulebook.compareSnapshots_eq_scan (by decide +kernel)]
    decide +kernel

/-! ## Indexes found by name or by columns -/

/-- An index on a column of the table `orders`. -/
def ordersIndex (origin position : Nat) (name column : String) : Object :=
  let table : Table := ⟨.entry origin .table 0, some "orders", none, none, none, none, []⟩
  let column : Column :=
    { tag := .listed origin .index position 0 0, name := some column, relation := some table,
      dataType := none, nullable := none, defaultValue := none, remarks := none, order := none,
      computed := none, descending := none, autoIncrement := none, attributes := [] }
  .index
    { tag := .entry origin .index position, name := some name, table := some table,
      ownSchema := none, columns := [column], unique := none, clustered := none, attributes := [] }

/-- Indexes are the same by name or by columns, so the index `a` on `x` is the same as an index `a`
on `y` and as an index `b` on `x`, which are different: the one that is listed first is taken. -/
theorem reordered_indexes_told_differently :
    let j := (Rulebook.builtin .postgres).judge .postgres .standard
    let R : Snapshot := ⟨none, none, [ordersIndex 0 0 "a" "x"]⟩
    let C : Snapshot := ⟨none, none, [ordersIndex 1 0 "a" "y", ordersIndex 1 1 "b" "x"]⟩
    let C' : Snapshot := ⟨none, none, [ordersIndex 1 1 "b" "x", ordersIndex 1 0 "a" "y"]⟩
    (∀ a ∈ R.objects, ∀ b ∈ R.objects, a ≠ b → j.same (some a) (some b) = .ok false) ∧
      (∀ a ∈ C.objects, ∀ b ∈ C.objects, a ≠ b → j.same (some a) (some b) = .ok false) ∧
      (∀ k, (C.ofKind k).Perm (C'.ofKind k)) ∧
      (compareSnapshots j .standard R C).map (·.unexpected) = .ok [ordersIndex 1 1 "b" "x"] ∧
      (compareSnapshots j .standard R C').map (·.unexpected) = .ok [ordersIndex 1 0 "a" "y"] := by
  intro j R C C'
  have scanned (S : Snapshot) (hS : ∀ r ∈ R.objects, ∀ c ∈ S.objects,
      Buckets.Meet (Identity.keysOf r) (Identity.keysOf c)) :
      compareSnapshots j .standard R S = scanSnapshots j .standard R S := by
    refine Fallible.foldlM_congr (fun f k _ => ?_) _
    refine Comparison.findingsOfKind_eq_scan (Rulebook.judge_sound fun r hr c hc _ => ?_) f
    exact hS r (mem_ofKind.1 hr).1 c (mem_ofKind.1 hc).1
  refine ⟨?_, ?_, fun k => .filter _ (.swap _ _ _), ?_, ?_⟩
  · simp only [j, Rulebook.judge_same]
    decide +kernel
  · simp only [j, Rulebook.judge_same]
    decide +kernel
  · rw [scanned C (by decide +kernel)]
    decide +kernel
  · rw [scanned C' (by decide +kernel)]
    decide +kernel

end SchemaDelta

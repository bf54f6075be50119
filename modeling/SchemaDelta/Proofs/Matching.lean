import SchemaDelta.Comparison
import SchemaDelta.Proofs.Buckets
import SchemaDelta.Proofs.Fallible

/-!
# Pairing in order

Reference objects are settled one after the other: each is paired with the first object
that is still free, has keys that meet its own and is judged the same, or stays unpaired
when there is none. `Settled` records the steps of such a run together with what each of
them establishes; what holds of whole runs follows by induction on it.
-/

namespace SchemaDelta

/-- Whether the keys of two objects are known and meet. -/
def Judge.KeysMeet (j : Judge) (a b : Object) : Prop :=
  ∃ ks ls, j.keys a = .ok ks ∧ j.keys b = .ok ls ∧ Buckets.Meet ks ls

namespace Comparison

variable {j : Judge} {objects references : List Object} {taken : List Nat} {r c : Object}
  {outcomes : List Outcome} {l : Ledger} {p : Nat}

/-- The reference object that an outcome is about. -/
def Outcome.reference : Outcome → Object
  | unpaired r => r
  | paired r _ _ _ => r

/-- The positions that some outcomes take up. -/
def positions (outcomes : List Outcome) : List Nat := outcomes.filterMap (·.position?)

/-- There is no free object at a position that is judged the same. -/
def Refused (j : Judge) (objects : List Object) (taken : List Nat) (r : Object) (q : Nat) : Prop :=
  q ∉ taken → ∀ c, objects[q]? = some c → j.same (some r) (some c) = .ok false

/-- Of the objects before a position, those whose keys meet are refused. -/
def RefusedBelow (j : Judge) (objects : List Object) (taken : List Nat) (r : Object) (n : Nat) :
    Prop :=
  ∀ q < n, ∀ c, objects[q]? = some c → j.KeysMeet r c → Refused j objects taken r q

/-- The outcomes of settling reference objects in order while some positions are taken. -/
inductive Settled (j : Judge) (objects : List Object) :
    List Nat → List Object → List Outcome → Prop where
  | done {taken : List Nat} : Settled j objects taken [] []
  | unpaired {taken : List Nat} {r : Object} {rest : List Object} {outcomes : List Outcome}
      (refused : RefusedBelow j objects taken r objects.length)
      (later : Settled j objects taken rest outcomes) :
      Settled j objects taken (r :: rest) (.unpaired r :: outcomes)
  | paired {taken : List Nat} {r c : Object} {p : Nat} {l : Ledger} {rest : List Object}
      {outcomes : List Outcome} (found : objects[p]? = some c) (free : p ∉ taken)
      (meet : j.KeysMeet r c) (same : j.same (some r) (some c) = .ok true)
      (first : RefusedBelow j objects taken r p)
      (differ : j.differences (some r) (some c) [] = .ok l)
      (later : Settled j objects (p :: taken) rest outcomes) :
      Settled j objects taken (r :: rest) (.paired r c p l :: outcomes)

/-! ## The first free position -/

/-- A position is passed over, or the search ends there. -/
theorem firstFree?_cons {ps : List Nat} {out : Option (Nat × Object)}
    (h : firstFree? j objects.toArray taken r (p :: ps) = .ok out) :
    (Refused j objects taken r p ∧ firstFree? j objects.toArray taken r ps = .ok out) ∨
      ∃ c, objects[p]? = some c ∧ p ∉ taken ∧ j.same (some r) (some c) = .ok true ∧
        out = some (p, c) := by
  rw [firstFree?, List.getElem?_toArray] at h
  cases hp : objects[p]? with
  | none => exact .inl ⟨fun _ c hc => by simp [hp] at hc, by simpa [hp] using h⟩
  | some c =>
    simp only [hp] at h
    split at h
    next ht => exact .inl ⟨fun free => absurd (List.contains_iff_mem.1 ht) free, h⟩
    next ht =>
      have free : p ∉ taken := fun hp => ht (List.contains_iff_mem.2 hp)
      obtain ⟨same, hs, h⟩ := Fallible.bind_eq_ok.1 h
      cases same with
      | true => exact .inr ⟨c, rfl, free, hs, (Fallible.pure_eq_ok.1 h).symm⟩
      | false => exact .inl ⟨fun _ d hd => by simp_all, by simpa using h⟩

theorem refused_of_firstFree?_eq_none {ps : List Nat}
    (h : firstFree? j objects.toArray taken r ps = .ok none) :
    ∀ q ∈ ps, Refused j objects taken r q := by
  induction ps with
  | nil => simp
  | cons p ps ih =>
    rcases firstFree?_cons h with ⟨hp, h⟩ | ⟨c, -, -, -, h⟩
    · exact List.forall_mem_cons.2 ⟨hp, ih h⟩
    · cases h

theorem split_of_firstFree?_eq_some {ps : List Nat}
    (h : firstFree? j objects.toArray taken r ps = .ok (some (p, c))) :
    ∃ before after, ps = before ++ p :: after ∧ objects[p]? = some c ∧ p ∉ taken ∧
      j.same (some r) (some c) = .ok true ∧ ∀ q ∈ before, Refused j objects taken r q := by
  induction ps with
  | nil => simp [firstFree?] at h
  | cons q ps ih =>
    rcases firstFree?_cons h with ⟨hq, h⟩ | ⟨d, hd, free, same, h⟩
    · obtain ⟨before, after, rfl, found, free, same, refused⟩ := ih h
      exact ⟨q :: before, after, rfl, found, free, same, List.forall_mem_cons.2 ⟨hq, refused⟩⟩
    · cases h
      exact ⟨[], ps, rfl, hd, free, same, by simp⟩

/-- Without an object that is judged the same the search ends empty. -/
theorem firstFree?_eq_none {ps : List Nat} (h : ∀ q ∈ ps, Refused j objects taken r q) :
    firstFree? j objects.toArray taken r ps = .ok none := by
  induction ps with
  | nil => rfl
  | cons p ps ih =>
    obtain ⟨hp, hps⟩ := List.forall_mem_cons.1 h
    rw [firstFree?, List.getElem?_toArray, ih hps]
    cases hc : objects[p]? with
    | none => rfl
    | some c =>
      by_cases htaken : p ∈ taken
      · simp [htaken]
      · simp [htaken, hp htaken c hc]

/-- Of ascending positions the search finds one before which all are refused. -/
theorem firstFree?_eq_some {ps : List Nat} (ascending : ps.Pairwise (· < ·)) (mem : p ∈ ps)
    (found : objects[p]? = some c) (free : p ∉ taken) (same : j.same (some r) (some c) = .ok true)
    (first : ∀ q ∈ ps, q < p → Refused j objects taken r q) :
    firstFree? j objects.toArray taken r ps = .ok (some (p, c)) := by
  induction ps with
  | nil => cases mem
  | cons q ps ih =>
    obtain ⟨above, ascending⟩ := List.pairwise_cons.1 ascending
    rw [firstFree?, List.getElem?_toArray]
    rcases List.mem_cons.1 mem with rfl | mem
    · simp [found, free, same]
    · have refused := first q List.mem_cons_self (above p mem)
      rw [ih ascending mem fun q' hq' => first q' (List.mem_cons_of_mem _ hq')]
      cases hd : objects[q]? with
      | none => rfl
      | some d =>
        by_cases htaken : q ∈ taken
        · simp [htaken]
        · simp [htaken, refused htaken d hd]

/-! ## Runs -/

theorem mem_candidates_iff_keysMeet {keys : List Keys} (hkeys : objects.mapM j.keys = .ok keys)
    {ks : Keys} (hr : j.keys r = .ok ks) {q : Nat} :
    q ∈ (Buckets.ofKeys keys).candidates ks ↔ ∃ c, objects[q]? = some c ∧ j.KeysMeet r c := by
  have paired := Fallible.mapM_eq_ok.1 hkeys
  rw [Buckets.mem_candidates]
  constructor
  · rintro ⟨ls, hls, meet⟩
    obtain ⟨hq, rfl⟩ := List.getElem?_eq_some_iff.1 hls
    have hq' : q < objects.length := paired.length_eq ▸ hq
    exact ⟨objects[q], List.getElem?_eq_getElem hq', ks, _, hr, paired.get hq' hq, meet⟩
  · rintro ⟨c, hc, ks', ls, hr', hls, meet⟩
    obtain ⟨hq, rfl⟩ := List.getElem?_eq_some_iff.1 hc
    have hq' : q < keys.length := paired.length_eq ▸ hq
    have := paired.get hq hq'
    simp_all

/-- A run over buckets settles the objects by their keys alone. -/
theorem settled_of_pairAll {keys : List Keys} (hkeys : objects.mapM j.keys = .ok keys)
    (h : pairAll j objects.toArray (Buckets.ofKeys keys) taken references = .ok outcomes) :
    Settled j objects taken references outcomes := by
  induction references generalizing taken outcomes with
  | nil =>
    cases h
    exact .done
  | cons r rest ih =>
    obtain ⟨ks, hr, h⟩ := Fallible.bind_eq_ok.1 h
    obtain ⟨found, hfound, h⟩ := Fallible.bind_eq_ok.1 h
    cases found with
    | none =>
      obtain ⟨later, hlater, h⟩ := Fallible.bind_eq_ok.1 h
      cases h
      have refused := refused_of_firstFree?_eq_none hfound
      refine .unpaired ?_ (ih hlater)
      intro q _ c hc meet
      refine refused q ?_
      exact (mem_candidates_iff_keysMeet hkeys hr).2 ⟨c, hc, meet⟩
    | some found =>
      obtain ⟨p, c⟩ := found
      obtain ⟨l, hl, h⟩ := Fallible.bind_eq_ok.1 h
      obtain ⟨later, hlater, h⟩ := Fallible.bind_eq_ok.1 h
      cases h
      obtain ⟨before, after, split, hc, free, same, refused⟩ := split_of_firstFree?_eq_some hfound
      have ascending := Buckets.ascending_candidates keys ks
      have mem {q : Nat} := mem_candidates_iff_keysMeet (q := q) hkeys hr
      rw [split] at ascending mem
      refine .paired hc free ?_ same (fun q hq d hd meet => refused q ?_) hl (ih hlater)
      · obtain ⟨d, hd, meet⟩ := mem.1 (List.mem_append_right _ List.mem_cons_self)
        cases hc.symm.trans hd
        exact meet
      · -- the candidates ascend, so one below `p` stands before it
        have above := (List.pairwise_cons.1 (List.pairwise_append.1 ascending).2.1).1 q
        have hq' := mem.2 ⟨d, hd, meet⟩
        grind

namespace Settled

/-- Objects whose keys are known are settled in one way only, that of the run over buckets. -/
theorem pairAll_eq_ok (h : Settled j objects taken references outcomes) {keys : List Keys}
    (hkeys : objects.mapM j.keys = .ok keys) (known : ∀ r ∈ references, ∃ ks, j.keys r = .ok ks) :
    pairAll j objects.toArray (Buckets.ofKeys keys) taken references = .ok outcomes := by
  induction h with
  | done => rfl
  | @unpaired taken r rest outcomes refused _ ih =>
    obtain ⟨⟨ks, hr⟩, known⟩ := List.forall_mem_cons.1 known
    have found : firstFree? j objects.toArray taken r ((Buckets.ofKeys keys).candidates ks) =
        .ok none := by
      refine firstFree?_eq_none ?_
      intro q hq
      obtain ⟨c, hc, meet⟩ := (mem_candidates_iff_keysMeet hkeys hr).1 hq
      exact refused q (List.getElem?_eq_some_iff.1 hc).1 c hc meet
    simp [pairAll, hr, found, ih known, Fallible.pure_eq]
  | @paired taken r c p l rest outcomes hc free meet same first differ _ ih =>
    obtain ⟨⟨ks, hr⟩, known⟩ := List.forall_mem_cons.1 known
    have mem {q : Nat} := mem_candidates_iff_keysMeet (q := q) hkeys hr
    have found : firstFree? j objects.toArray taken r ((Buckets.ofKeys keys).candidates ks) =
        .ok (some (p, c)) := by
      refine firstFree?_eq_some (Buckets.ascending_candidates keys ks) (mem.2 ⟨c, hc, meet⟩) hc free
        same ?_
      intro q hq hlt
      obtain ⟨d, hd, meet⟩ := mem.1 hq
      exact first q hlt d hd meet
    simp [pairAll, hr, found, differ, ih known, Fallible.pure_eq]

theorem map_reference (h : Settled j objects taken references outcomes) :
    outcomes.map Outcome.reference = references := by
  induction h with
  | done => rfl
  | unpaired _ _ ih => rw [List.map_cons, ih]; rfl
  | paired _ _ _ _ _ _ _ ih => rw [List.map_cons, ih]; rfl

theorem of_paired_mem (h : Settled j objects taken references outcomes)
    (hmem : .paired r c p l ∈ outcomes) :
    objects[p]? = some c ∧ p ∉ taken ∧ j.KeysMeet r c ∧ j.same (some r) (some c) = .ok true ∧
      j.differences (some r) (some c) [] = .ok l := by
  induction h with
  | done => cases hmem
  | unpaired _ _ ih => exact ih (by simpa using hmem)
  | paired found free meet same _ differ _ ih =>
    rcases List.mem_cons.1 hmem with heq | hmem
    · cases heq
      exact ⟨found, free, meet, same, differ⟩
    · obtain ⟨found, free, rest⟩ := ih hmem
      exact ⟨found, fun hp => free (List.mem_cons_of_mem _ hp), rest⟩

theorem not_mem_taken (h : Settled j objects taken references outcomes)
    (hp : p ∈ positions outcomes) : p ∉ taken := by
  obtain ⟨o, ho, hp⟩ := List.mem_filterMap.1 hp
  cases o with
  | unpaired => cases hp
  | paired r c q l =>
    cases hp
    exact (h.of_paired_mem ho).2.1

/-- No position is taken up twice. -/
theorem nodup_positions (h : Settled j objects taken references outcomes) :
    (positions outcomes).Nodup := by
  induction h with
  | done => exact List.nodup_nil
  | unpaired _ _ ih => exact ih
  | paired _ _ _ _ _ _ later ih =>
    exact List.nodup_cons.2 ⟨fun hp => later.not_mem_taken hp List.mem_cons_self, ih⟩

/-- What stays unpaired is not the same as anything that stays free and has keys that meet. -/
theorem refused_of_unpaired_mem (h : Settled j objects taken references outcomes)
    (hmem : .unpaired r ∈ outcomes) (hc : objects[p]? = some c) (free : p ∉ taken)
    (hp : p ∉ positions outcomes) (meet : j.KeysMeet r c) :
    j.same (some r) (some c) = .ok false := by
  have hlt : p < objects.length := (List.getElem?_eq_some_iff.1 hc).1
  induction h with
  | done => cases hmem
  | unpaired refused _ ih =>
    rcases List.mem_cons.1 hmem with heq | hmem
    · cases heq
      exact refused p hlt c hc meet free c hc
    · exact ih hmem free hp
  | @paired taken r' d q l rest outcomes _ _ _ _ _ _ _ ih =>
    have hp : p ∉ q :: positions outcomes := hp
    rw [List.mem_cons, not_or] at hp
    exact ih (by simpa using hmem) (by simp [hp.1, free]) hp.2

end Settled

end Comparison

end SchemaDelta

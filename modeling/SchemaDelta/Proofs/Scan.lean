import SchemaDelta.Proofs.Account

/-!
# Searching without keys

Keys only narrow the search for a partner. A judge whose keys never keep apart what it
judges the same finds with them exactly what a scan over all free objects finds, errors
included.

## Main definitions

* `Judge.Sound` — keys are known and meet whenever two objects are the same.
* `scanSnapshots` — the comparison that searches all free objects in order.
-/

namespace SchemaDelta

/-- Keys and sameness of the objects of two sides are known, and what is the same has keys that
meet. -/
structure Judge.Sound (j : Judge) (references objects : List Object) : Prop where
  keys : ∀ o ∈ references ++ objects, ∃ ks, j.keys o = .ok ks
  same : ∀ r ∈ references, ∀ c ∈ objects, ∃ b, j.same (some r) (some c) = .ok b
  meet : ∀ r ∈ references, ∀ c ∈ objects, j.same (some r) (some c) = .ok true → j.KeysMeet r c

namespace Comparison

/-- The first of some objects that is judged the same, and the others. -/
def takeFirst? (j : Judge) (r : Object) :
    List Object → Except CompareError (Option (Object × List Object))
  | [] => .ok none
  | c :: rest => do
    if ← j.same (some r) (some c) then return some (c, rest)
    else return (← takeFirst? j r rest).map fun (found, rest) => (found, c :: rest)

/-- Pair the reference objects in order, each with the first free object judged the same. -/
def scan (j : Judge) (f : Findings) (free : List Object) :
    List Object → Except CompareError Findings
  | [] => .ok (free.foldl Findings.addUnexpected f)
  | r :: rest => do
    match ← takeFirst? j r free with
    | none => scan j (f.addMissing r) free rest
    | some (c, free) => do
      let l ← j.differences (some r) (some c) []
      scan j (f.addChanged ⟨r, c, l⟩) free rest

end Comparison

/-- Compare two snapshots without keys. -/
def scanSnapshots (j : Judge) (p : Policy) (reference comparison : Snapshot) :
    Except CompareError Findings :=
  p.orderedKinds.foldlM
    (fun f k => Comparison.scan j f (comparison.ofKind k) (reference.ofKind k))
    (Findings.start reference comparison p)

namespace Comparison

variable {j : Judge} {objects references : List Object} {taken : List Nat} {r : Object}

/-! ## One search -/

/-- Positions whose objects are refused need not be searched. -/
theorem firstFree?_filter {keep : Nat → Bool} {ps : List Nat}
    (h : ∀ q ∈ ps, keep q = false → Refused j objects taken r q) :
    firstFree? j objects.toArray taken r (ps.filter keep) =
      firstFree? j objects.toArray taken r ps := by
  induction ps with
  | nil => rfl
  | cons p ps ih =>
    have ih := ih fun q hq => h q (List.mem_cons_of_mem _ hq)
    cases hp : keep p with
    | true =>
      rw [List.filter_cons_of_pos hp]
      unfold firstFree?
      rw [ih]
    | false =>
      have refused := h p List.mem_cons_self hp
      rw [List.filter_cons_of_neg (by simp [hp]), ih, firstFree?]
      cases hc : objects.toArray[p]? with
      | none => rfl
      | some c =>
        by_cases htaken : p ∈ taken
        · simp [htaken]
        · simp [htaken, refused htaken c (by simpa using hc)]

/-- The objects that are free while some positions are taken. -/
def freeOf (taken : List Nat) (placed : List (Object × Nat)) : List Object :=
  (placed.filter fun o => !taken.contains o.2).map (·.1)

theorem freeOf_cons_of_mem {c : Object} {p : Nat} {placed : List (Object × Nat)} (h : p ∈ taken) :
    freeOf taken ((c, p) :: placed) = freeOf taken placed := by
  simp [freeOf, h]

theorem freeOf_cons_of_not_mem {c : Object} {p : Nat} {placed : List (Object × Nat)}
    (h : p ∉ taken) : freeOf taken ((c, p) :: placed) = c :: freeOf taken placed := by
  simp [freeOf, h]

theorem freeOf_congr {taken taken' : List Nat} {placed : List (Object × Nat)}
    (h : ∀ o ∈ placed, o.2 ∈ taken ↔ o.2 ∈ taken') :
    freeOf taken placed = freeOf taken' placed := by
  rw [freeOf, freeOf]
  congr 1
  refine List.filter_congr ?_
  intro o ho
  simp [h o ho]

/-- Taking up the first position leaves what was free behind it. -/
theorem freeOf_cons_taken {c : Object} {p : Nat} {placed : List (Object × Nat)}
    (hp : p ∉ placed.map (·.2)) : freeOf (p :: taken) ((c, p) :: placed) = freeOf taken placed := by
  rw [freeOf_cons_of_mem List.mem_cons_self]
  refine freeOf_congr ?_
  intro o ho
  have hne : o.2 ≠ p := by
    rintro rfl
    exact hp (List.mem_map.2 ⟨o, ho, rfl⟩)
  simp [hne]

/-- Searching free objects is searching free positions. -/
theorem takeFirst?_freeOf {placed : List (Object × Nat)}
    (hplaced : ∀ o ∈ placed, objects[o.2]? = some o.1) (hnodup : (placed.map (·.2)).Nodup) :
    takeFirst? j r (freeOf taken placed) =
      (firstFree? j objects.toArray taken r (placed.map (·.2))).map
        (Option.map fun (p, c) => (c, freeOf (p :: taken) placed)) := by
  induction placed with
  | nil => rfl
  | cons o placed ih =>
    obtain ⟨c, p⟩ := o
    obtain ⟨hp, hnodup⟩ : p ∉ placed.map (·.2) ∧ (placed.map (·.2)).Nodup :=
      List.nodup_cons.1 hnodup
    have hc : objects.toArray[p]? = some c := by simpa using hplaced _ List.mem_cons_self
    have ih := ih (fun o ho => hplaced o (List.mem_cons_of_mem _ ho)) hnodup
    rw [List.map_cons, firstFree?, hc]
    dsimp only
    by_cases htaken : p ∈ taken
    · rw [freeOf_cons_of_mem htaken, ih]
      simp [htaken, freeOf_cons_of_mem]
    · rw [freeOf_cons_of_not_mem htaken, takeFirst?]
      cases same : j.same (some r) (some c) with
      | error e => simp [htaken]
      | ok b =>
        cases b with
        | true => simp [htaken, Fallible.pure_eq, freeOf_cons_taken hp]
        | false =>
          simp only [Fallible.ok_bind, ih]
          cases hfound : firstFree? j objects.toArray taken r (placed.map (·.2)) with
          | error e => simp [htaken]
          | ok found =>
            cases found with
            | none => simp [htaken]
            | some found =>
              obtain ⟨q, d⟩ := found
              obtain ⟨before, after, split, -⟩ := split_of_firstFree?_eq_some hfound
              have hq : p ≠ q := by
                rintro rfl
                exact hp (by simp [split])
              simp [htaken, freeOf_cons_of_not_mem, hq]

/-! ## Whole runs -/

theorem refused_of_sound (sound : j.Sound (r :: references) objects) {q : Nat}
    (h : ∀ c, objects[q]? = some c → ¬j.KeysMeet r c) : Refused j objects taken r q := by
  intro _ c hc
  have mem : c ∈ objects := List.mem_of_getElem? hc
  obtain ⟨b, hb⟩ := sound.same r List.mem_cons_self c mem
  cases b with
  | true => exact (h c hc (sound.meet r List.mem_cons_self c mem hb)).elim
  | false => exact hb

/-- Searching the candidates is searching all positions. -/
theorem firstFree?_candidates {keys : List Keys} {ks : Keys}
    (hkeys : objects.mapM j.keys = .ok keys) (hr : j.keys r = .ok ks)
    (sound : j.Sound (r :: references) objects) :
    firstFree? j objects.toArray taken r ((Buckets.ofKeys keys).candidates ks) =
      firstFree? j objects.toArray taken r (List.range objects.length) := by
  have mem {q : Nat} := mem_candidates_iff_keysMeet (q := q) hkeys hr
  rw [Buckets.candidates_ofKeys, (Fallible.mapM_eq_ok.1 hkeys).length_eq]
  refine firstFree?_filter fun q hq hkeep => refused_of_sound sound fun c hc meet => ?_
  have hmem := mem.2 ⟨c, hc, meet⟩
  rw [Buckets.candidates_ofKeys, List.mem_filter, hkeep] at hmem
  exact Bool.false_ne_true hmem.2

theorem takeFirst?_eq_candidates {keys : List Keys} {ks : Keys}
    (hkeys : objects.mapM j.keys = .ok keys) (hr : j.keys r = .ok ks)
    (sound : j.Sound (r :: references) objects) :
    takeFirst? j r (freeOf taken objects.zipIdx) =
      (firstFree? j objects.toArray taken r ((Buckets.ofKeys keys).candidates ks)).map
        (Option.map fun (p, c) => (c, freeOf (p :: taken) objects.zipIdx)) := by
  have placed : ∀ o ∈ objects.zipIdx, objects[o.2]? = some o.1 := by
    intro o ho
    exact List.mem_zipIdx_iff_getElem?.1 ho
  have range : objects.zipIdx.map (·.2) = List.range objects.length := by
    rw [List.zipIdx_map_snd, List.range_eq_range']
  rw [firstFree?_candidates hkeys hr sound, ← range]
  exact takeFirst?_freeOf placed (range ▸ List.nodup_range)

/-- A run over buckets, with what it leaves over, is a scan of the free objects. -/
theorem pairAll_eq_scan {keys : List Keys} (hkeys : objects.mapM j.keys = .ok keys)
    (sound : j.Sound references objects) (taken : List Nat) (f : Findings) :
    (pairAll j objects.toArray (Buckets.ofKeys keys) taken references).map (fun outcomes =>
      (freeOf (positions outcomes ++ taken) objects.zipIdx).foldl Findings.addUnexpected
        (outcomes.foldl Outcome.record f)) =
      scan j f (freeOf taken objects.zipIdx) references := by
  induction references generalizing taken f with
  | nil => rfl
  | cons r rest ih =>
    have later : j.Sound rest objects :=
      ⟨fun o ho => sound.keys o (List.mem_cons_of_mem _ ho),
        fun r hr => sound.same r (List.mem_cons_of_mem _ hr),
        fun r hr => sound.meet r (List.mem_cons_of_mem _ hr)⟩
    obtain ⟨ks, hr⟩ := sound.keys r List.mem_cons_self
    rw [pairAll, scan, hr, takeFirst?_eq_candidates hkeys hr sound]
    simp only [Fallible.ok_bind]
    cases firstFree? j objects.toArray taken r ((Buckets.ofKeys keys).candidates ks) with
    | error e => rfl
    | ok found =>
      cases found with
      | none =>
        simp only [Fallible.map_ok, Option.map_none, Fallible.ok_bind, ← ih later]
        cases pairAll j objects.toArray (Buckets.ofKeys keys) taken rest <;> rfl
      | some found =>
        obtain ⟨p, c⟩ := found
        simp only [Fallible.map_ok, Option.map_some, Fallible.ok_bind, ← ih later]
        cases j.differences (some r) (some c) [] with
        | error e => rfl
        | ok l =>
          cases pairAll j objects.toArray (Buckets.ofKeys keys) (p :: taken) rest with
          | error e => rfl
          | ok outcomes =>
            have free : freeOf (p :: positions outcomes ++ taken) objects.zipIdx =
                freeOf (positions outcomes ++ p :: taken) objects.zipIdx :=
              freeOf_congr fun o _ => by simp [or_left_comm]
            exact congrArg Except.ok (congrArg (List.foldl Findings.addUnexpected _) free)

variable {R C : Snapshot} {k : Kind}

theorem findingsOfKind_eq_scan (sound : j.Sound (R.ofKind k) (C.ofKind k)) (f : Findings) :
    findingsOfKind j R C f k = scan j f (C.ofKind k) (R.ofKind k) := by
  obtain ⟨keys, hkeys⟩ := Fallible.exists_mapM_eq_ok fun c (hc : c ∈ C.ofKind k) =>
    sound.keys c (List.mem_append_right _ hc)
  have run := pairAll_eq_scan hkeys sound [] f
  have all : freeOf [] (C.ofKind k).zipIdx = C.ofKind k := by simp [freeOf, List.zipIdx_map_fst]
  rw [all] at run
  rw [← run, findingsOfKind, hkeys, Fallible.ok_bind]
  cases pairAll j (C.ofKind k).toArray (Buckets.ofKeys keys) [] (R.ofKind k) with
  | error e => rfl
  | ok outcomes =>
    rw [Fallible.map_ok, List.append_nil]
    rfl

end Comparison

/-- Keys only narrow the search. When they never keep apart what is the same, the comparison gives
the answer of the scan over all free objects, errors included. -/
theorem compareSnapshots_eq_scanSnapshots {j : Judge} {p : Policy} {R C : Snapshot}
    (sound : ∀ k ∈ p.kinds, j.Sound (R.ofKind k) (C.ofKind k)) :
    compareSnapshots j p R C = scanSnapshots j p R C :=
  Fallible.foldlM_congr
    (fun f k hk => Comparison.findingsOfKind_eq_scan (sound k (mem_orderedKinds.1 hk)) f) _

/-- A table of which no more than its name is known. -/
def bareTable (origin position : Nat) (name : String) : Object :=
  .table ⟨.entry origin .table position, some name, none, none, none, none, []⟩

theorem compareSnapshots_eq_scanSnapshots_orders :
    (compareSnapshots ((Rulebook.builtin .generic).judge .generic .standard) .standard
      ⟨none, none, [bareTable 0 0 "ORDERS"]⟩
      ⟨none, none, [bareTable 1 0 "log", bareTable 1 1 "orders"]⟩).map
        (fun f => (f.missing, f.unexpected, f.changed.length)) =
      .ok ([], [bareTable 1 0 "log"], 0) := by
  have mem {s : Snapshot} {k : Kind} {o : Object} (h : o ∈ s.ofKind k) : o ∈ s.objects :=
    (mem_ofKind.1 h).1
  rw [compareSnapshots_eq_scanSnapshots]
  · decide +kernel
  · refine fun k _ => ⟨fun o ho => ?_, fun r hr c hc => ?_, fun r hr c hc => ?_⟩
    · have ho := (List.mem_append.1 ho).imp mem mem
      simp only [List.mem_cons, List.not_mem_nil, or_false] at ho
      rcases ho with rfl | rfl | rfl <;> exact ⟨_, rfl⟩
    · obtain rfl := List.mem_singleton.1 (mem hr)
      rcases List.mem_cons.1 (mem hc) with rfl | hc
      · exact ⟨false, by decide +kernel⟩
      · obtain rfl := List.mem_singleton.1 hc
        exact ⟨true, by decide +kernel⟩
    · obtain rfl := List.mem_singleton.1 (mem hr)
      rcases List.mem_cons.1 (mem hc) with rfl | hc
      · exact fun h => absurd h (by decide +kernel)
      · obtain rfl := List.mem_singleton.1 hc
        exact fun _ => ⟨_, _, rfl, rfl, by decide⟩

end SchemaDelta

import Mathlib.Data.List.Sort
import SchemaDelta.Keyed

/-!
# Sets of keys

A set of keys is a strictly ascending list with the elements that were put in. An entry
that is written joins the others and takes the place of the one that had its key, so that
entries of distinct keys are all kept. In a sorted list of entries a search by the order of the
keys finds what a look at all of them does.
-/

namespace SchemaDelta.Keyed

theorem mem_of_mem_ofList {κ α : Type} [Ord κ] {e : κ × α} {entries : List (κ × α)}
    (h : e ∈ ofList entries) : e ∈ entries := by
  suffices ∀ acc : List (κ × α), e ∈ entries.foldl (fun acc e => insert e.1 e.2 acc) acc →
      e ∈ acc ∨ e ∈ entries from (this [] h).resolve_left List.not_mem_nil
  clear h
  induction entries with
  | nil => exact fun _ h => .inl h
  | cons e' rest ih =>
    intro acc h
    rcases ih _ h with h | h
    · rcases mem_insert h with rfl | h
      · exact .inr List.mem_cons_self
      · exact .inl h
    · exact .inr (List.mem_cons_of_mem _ h)

/-- It does not matter whether a value is changed before it is written or after. -/
theorem map_insert {κ α β : Type} [Ord κ] (g : α → β) (k : κ) (v : α) (entries : List (κ × α)) :
    (insert k v entries).map (Prod.map id g) = insert k (g v) (entries.map (Prod.map id g)) := by
  fun_induction insert k v entries with
  | case1 => rfl
  | case2 l w rest hlt => simp [insert, hlt]
  | case3 l w rest heq => simp [insert, heq]
  | case4 l w rest hgt ih => simp [insert, hgt, ih]

theorem insert_of_forall_gt {κ α : Type} [Ord κ] {k : κ} {v : α} {entries : List (κ × α)}
    (h : ∀ e ∈ entries, compare k e.1 = .gt) : insert k v entries = entries ++ [(k, v)] := by
  induction entries with
  | nil => rfl
  | cons e rest ih =>
    have hrest := ih fun e he => h e (List.mem_cons_of_mem _ he)
    simp only [insert, h e List.mem_cons_self, hrest, List.cons_append]

/-- Entries that are in order already stay as they are. -/
theorem ofList_of_sorted {κ α : Type} [Ord κ] [Std.OrientedOrd κ] {entries : List (κ × α)}
    (h : Sorted entries) : ofList entries = entries := by
  suffices ∀ acc : List (κ × α), Sorted (acc ++ entries) →
      entries.foldl (fun acc e => insert e.1 e.2 acc) acc = acc ++ entries from this [] h
  clear h
  induction entries with
  | nil => exact fun acc _ => (List.append_nil acc).symm
  | cons e rest ih =>
    intro acc h
    have above : ∀ e' ∈ acc, compare e.1 e'.1 = .gt := fun e' he' =>
      Std.OrientedCmp.gt_of_lt ((List.pairwise_append.1 h).2.2 e' he' e List.mem_cons_self)
    rw [List.append_cons] at h ⊢
    rw [← ih _ h, List.foldl_cons, insert_of_forall_gt above]

variable {κ : Type} [Ord κ] [Std.LawfulEqOrd κ]

theorem ne_of_compare {k l : κ} (h : compare k l ≠ .eq) : l ≠ k := by
  rintro rfl
  exact h Std.ReflCmp.compare_self

@[simp] theorem mem_insertKey {k l : κ} {ks : List κ} : l ∈ insertKey k ks ↔ l = k ∨ l ∈ ks := by
  fun_induction insertKey k ks with
  | case1 => simp
  | case2 => simp
  | case3 m rest heq =>
    obtain rfl := Std.LawfulEqCmp.eq_of_compare heq
    simp
  | case4 m rest _ ih => simp [ih, or_left_comm]

@[simp] theorem mem_keySet {k : κ} {ks : List κ} : k ∈ keySet ks ↔ k ∈ ks := by
  induction ks with
  | nil => rfl
  | cons l rest ih => rw [List.mem_cons, ← ih]; exact mem_insertKey

/-! ## Entries of distinct keys -/

theorem perm_insert {α : Type} {k : κ} {v : α} {entries : List (κ × α)}
    (h : k ∉ entries.map Prod.fst) : (insert k v entries).Perm ((k, v) :: entries) := by
  fun_induction insert k v entries with
  | case1 => exact .refl _
  | case2 => exact .refl _
  | case3 l w rest heq =>
    obtain rfl := Std.LawfulEqCmp.eq_of_compare heq
    exact absurd List.mem_cons_self h
  | case4 l w rest hgt ih =>
    have hrest : k ∉ rest.map Prod.fst := fun hk => h (List.mem_cons_of_mem _ hk)
    exact ((ih hrest).cons _).trans (.swap ..)

theorem perm_ofList {α : Type} {entries : List (κ × α)} (h : (entries.map Prod.fst).Nodup) :
    (ofList entries).Perm entries := by
  suffices ∀ acc : List (κ × α), (acc.map Prod.fst ++ entries.map Prod.fst).Nodup →
      (entries.foldl (fun acc e => insert e.1 e.2 acc) acc).Perm (acc ++ entries) from this [] h
  clear h
  induction entries with
  | nil =>
    intro acc _
    exact .of_eq (List.append_nil acc).symm
  | cons e rest ih =>
    intro acc h
    have fresh : e.1 ∉ acc.map Prod.fst := fun he =>
      (List.nodup_append.1 h).2.2 _ he _ List.mem_cons_self rfl
    have written := perm_insert (v := e.2) fresh
    have distinct : ((insert e.1 e.2 acc).map Prod.fst ++ rest.map Prod.fst).Nodup :=
      (((written.map Prod.fst).append_right _).trans List.perm_middle.symm).nodup_iff.2 h
    exact (ih _ distinct).trans ((written.append_right rest).trans List.perm_middle.symm)

/-! ## Ascending keys -/

variable [Std.TransOrd κ]

theorem ascending_insertKey (k : κ) {ks : List κ} (h : ks.Pairwise (compare · · = .lt)) :
    (insertKey k ks).Pairwise (compare · · = .lt) := by
  fun_induction insertKey k ks with
  | case1 => simp
  | case2 l rest hlt =>
    refine List.pairwise_cons.2 ⟨fun m hm => ?_, h⟩
    rcases List.mem_cons.1 hm with rfl | hm
    · exact hlt
    · exact Std.TransCmp.lt_trans hlt (List.rel_of_pairwise_cons h hm)
  | case3 l rest heq =>
    obtain rfl := Std.LawfulEqCmp.eq_of_compare heq
    exact h
  | case4 l rest hgt ih =>
    obtain ⟨hl, hrest⟩ := List.pairwise_cons.1 h
    refine List.pairwise_cons.2 ⟨fun m hm => ?_, ih hrest⟩
    rcases mem_insertKey.1 hm with rfl | hm
    · exact Std.OrientedCmp.lt_of_gt hgt
    · exact hl m hm

theorem ascending_keySet (ks : List κ) : (keySet ks).Pairwise (compare · · = .lt) := by
  induction ks with
  | nil => exact .nil
  | cons k rest ih => exact ascending_insertKey k ih

/-- A set of keys is the elements that were put in. -/
theorem keySet_congr {ks ls : List κ} (h : ∀ k, k ∈ ks ↔ k ∈ ls) : keySet ks = keySet ls := by
  have irreflexive : Std.Irrefl (α := κ) (compare · · = .lt) :=
    ⟨fun k hk => by simp [Std.ReflCmp.compare_self] at hk⟩
  have antisymmetric : Std.Antisymm (α := κ) (compare · · = .lt) :=
    ⟨fun k l hkl hlk => by
      have gt := Std.OrientedCmp.gt_of_lt hkl
      rw [hlk] at gt
      cases gt⟩
  exact (ascending_keySet ks).eq_of_mem_iff (ascending_keySet ls) fun {k} => by simp [h]

/-- What lies below the first key of a sorted list is none of its keys. -/
theorem Sorted.ne_of_lt {α : Type} {k l : κ} {w : α} {rest : List (κ × α)}
    (h : Sorted ((l, w) :: rest)) (hk : compare k l = .lt) : ∀ e ∈ (l, w) :: rest, e.1 ≠ k := by
  intro e he
  refine ne_of_compare ?_
  rcases List.mem_cons.1 he with rfl | he
  · simp [hk]
  · simp [Std.TransCmp.lt_trans hk (List.rel_of_pairwise_cons h he)]

theorem mem_insert_iff {α : Type} {k : κ} {v : α} {e : κ × α} {entries : List (κ × α)}
    (h : Sorted entries) : e ∈ insert k v entries ↔ e = (k, v) ∨ e ∈ entries ∧ e.1 ≠ k := by
  fun_induction insert k v entries with
  | case1 => simp
  | case2 l w rest hlt =>
    have apart := h.ne_of_lt hlt
    grind
  | case3 l w rest heq =>
    obtain rfl := Std.LawfulEqCmp.eq_of_compare heq
    have apart : ∀ e' ∈ rest, e'.1 ≠ k := by
      intro e' he'
      exact ne_of_compare (by simp [List.rel_of_pairwise_cons h he'])
    grind
  | case4 l w rest hgt ih =>
    have apart : l ≠ k := ne_of_compare (by simp [hgt])
    have ih := ih (List.pairwise_cons.1 h).2
    grind

/-! ## Entries that are looked up -/

section

variable {α : Type} {k l : κ} {v : α} {entries : List (κ × α)}

omit [Ord κ] [Std.LawfulEqOrd κ] [Std.TransOrd κ] in
theorem lookup_cons_eq_ite [DecidableEq κ] :
    ((k, v) :: entries).lookup l = if l = k then some v else entries.lookup l := by
  rw [List.lookup_cons]
  by_cases hl : l = k
  · rw [if_pos hl, beq_iff_eq.2 hl]
  · rw [if_neg hl, beq_eq_false_iff_ne.2 hl]

omit [Std.TransOrd κ] in
theorem lookup_insert [DecidableEq κ] :
    (insert k v entries).lookup l = if l = k then some v else entries.lookup l := by
  fun_induction insert k v entries with
  | case1 => exact lookup_cons_eq_ite
  | case2 => exact lookup_cons_eq_ite
  | case3 m w rest heq =>
    obtain rfl := Std.LawfulEqCmp.eq_of_compare heq
    simp only [lookup_cons_eq_ite]
    split <;> rfl
  | case4 m w rest hgt ih =>
    have apart : m ≠ k := ne_of_compare (by simp [hgt])
    simp only [lookup_cons_eq_ite, ih]
    grind

omit [Ord κ] [Std.LawfulEqOrd κ] [Std.TransOrd κ] in
theorem lookup_filter_ne [DecidableEq κ] :
    (entries.filter fun e => e.1 != k).lookup l = if l = k then none else entries.lookup l := by
  induction entries with
  | nil => simp
  | cons e rest ih =>
    obtain ⟨m, w⟩ := e
    by_cases hm : m = k
    · rw [List.filter_cons_of_neg (by simpa using hm), ih, lookup_cons_eq_ite]
      grind
    · rw [List.filter_cons_of_pos (by simpa using hm), lookup_cons_eq_ite, lookup_cons_eq_ite, ih]
      grind

omit [Std.TransOrd κ] in
/-- In a sorted list a key leads to its entry. -/
theorem mem_iff_lookup [DecidableEq κ] {e : κ × α} (h : Sorted entries) :
    e ∈ entries ↔ entries.lookup e.1 = some e.2 := by
  induction entries with
  | nil => simp
  | cons e' rest ih =>
    obtain ⟨above, hrest⟩ := List.pairwise_cons.1 h
    rw [List.mem_cons, ih hrest, lookup_cons_eq_ite]
    have apart : e.1 = e'.1 → rest.lookup e.1 ≠ some e.2 := by
      intro same he
      have lt := above e ((ih hrest).2 he)
      simp [same, Std.ReflCmp.compare_self] at lt
    grind

end

/-! ## Entries that are searched for

In a sorted list a search can end where the keys begin to lie above the one that is sought. -/

section

variable {α : Type} {k l : κ} {w : α} {entries rest : List (κ × α)}

/-- The value of a key, searched for in the order of the keys. -/
def search? (k : κ) : List (κ × α) → Option α
  | [] => none
  | (l, w) :: rest =>
    match compare k l with
    | .lt => none
    | .eq => some w
    | .gt => search? k rest

/-- Take out the entry of a key, searched for in the order of the keys. -/
def erase (k : κ) : List (κ × α) → List (κ × α)
  | [] => []
  | (l, w) :: rest =>
    match compare k l with
    | .lt => (l, w) :: rest
    | .eq => rest
    | .gt => (l, w) :: erase k rest

theorem search?_eq_lookup [DecidableEq κ] (h : Sorted entries) :
    search? k entries = entries.lookup k := by
  fun_induction search? k entries with
  | case1 => rfl
  | case2 l w rest hlt =>
    refine (List.lookup_eq_none_iff.2 fun e he => ?_).symm
    simpa using (h.ne_of_lt hlt e he).symm
  | case3 l w rest heq =>
    obtain rfl := Std.LawfulEqCmp.eq_of_compare heq
    rw [lookup_cons_eq_ite, if_pos rfl]
  | case4 l w rest hgt ih =>
    have apart : l ≠ k := ne_of_compare (by simp [hgt])
    rw [ih (List.pairwise_cons.1 h).2, lookup_cons_eq_ite, if_neg apart.symm]

theorem erase_eq_filter [DecidableEq κ] (h : Sorted entries) :
    erase k entries = entries.filter fun e => e.1 != k := by
  fun_induction erase k entries with
  | case1 => rfl
  | case2 l w rest hlt =>
    refine (List.filter_eq_self.2 fun e he => ?_).symm
    simpa using h.ne_of_lt hlt e he
  | case3 l w rest heq =>
    obtain rfl := Std.LawfulEqCmp.eq_of_compare heq
    rw [List.filter_cons_of_neg (by simp)]
    refine (List.filter_eq_self.2 fun e he => ?_).symm
    simpa using ne_of_compare (by simp [List.rel_of_pairwise_cons h he])
  | case4 l w rest hgt ih =>
    have apart : l ≠ k := ne_of_compare (by simp [hgt])
    rw [ih (List.pairwise_cons.1 h).2, List.filter_cons_of_pos (by simpa using apart)]

end

/-! ## Filtered entries -/

omit [Std.TransOrd κ] in
/-- Writing an entry whose key is not kept changes nothing of what is kept. -/
theorem filter_insert_of_neg {α : Type} {keep : κ → Bool} {k : κ} (v : α)
    (entries : List (κ × α)) (hk : keep k = false) :
    (insert k v entries).filter (fun e => keep e.1) = entries.filter fun e => keep e.1 := by
  fun_induction insert k v entries with
  | case1 => simp [hk]
  | case2 => simp [hk]
  | case3 l w rest heq =>
    obtain rfl := Std.LawfulEqCmp.eq_of_compare heq
    simp [hk]
  | case4 l w rest hgt ih => rw [List.filter_cons, List.filter_cons, ih]

omit [Std.LawfulEqOrd κ] [Std.TransOrd κ] in
theorem insert_of_forall_lt {α : Type} {k : κ} {v : α} {entries : List (κ × α)}
    (h : ∀ e ∈ entries, compare k e.1 = .lt) : insert k v entries = (k, v) :: entries := by
  cases entries with
  | nil => rfl
  | cons e rest => simp only [insert, h e List.mem_cons_self]

/-- Writing an entry whose key is kept may come before what is not kept is left out, or after. -/
theorem filter_insert_of_pos {α : Type} {keep : κ → Bool} {k : κ} (v : α)
    {entries : List (κ × α)} (hk : keep k = true) (h : Sorted entries) :
    (insert k v entries).filter (fun e => keep e.1) =
      insert k v (entries.filter fun e => keep e.1) := by
  fun_induction insert k v entries with
  | case1 => simp [hk, insert]
  | case2 l w rest hlt =>
    have above : ∀ e ∈ (l, w) :: rest, compare k e.1 = .lt := by
      intro e he
      rcases List.mem_cons.1 he with rfl | he
      · exact hlt
      · exact Std.TransCmp.lt_trans hlt (List.rel_of_pairwise_cons h he)
    rw [List.filter_cons, if_pos hk, insert_of_forall_lt]
    exact fun e he => above e (List.mem_filter.1 he).1
  | case3 l w rest heq =>
    obtain rfl := Std.LawfulEqCmp.eq_of_compare heq
    rw [List.filter_cons, List.filter_cons, if_pos hk, if_pos hk]
    simp only [insert, Std.ReflCmp.compare_self]
  | case4 l w rest hgt ih =>
    have ih := ih (List.pairwise_cons.1 h).2
    rw [List.filter_cons, List.filter_cons, ih]
    by_cases hl : keep l = true
    · rw [if_pos hl, if_pos hl]
      simp only [insert, hgt]
    · rw [if_neg hl, if_neg hl]

end SchemaDelta.Keyed

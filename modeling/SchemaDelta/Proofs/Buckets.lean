import Mathlib.Data.List.Induction
import Mathlib.Data.List.Sort
import SchemaDelta.Buckets
import SchemaDelta.Proofs.Keyed

/-!
# What buckets offer

The candidates for an object are the positions of exactly those objects whose keys meet
its own, in the order in which they were filed. Buckets are filed one object at a time;
`Files` says what they hold after some objects, and filing one more keeps it.
-/

namespace SchemaDelta.Buckets

/-- Keys meet when they share one, or when a side has none. -/
def Meet (a b : Keys) : Prop :=
  match a, b with
  | some ks, some ls => ks = [] ∨ ls = [] ∨ ∃ k ∈ ks, k ∈ ls
  | _, _ => True

instance (a b : Keys) : Decidable (Meet a b) :=
  match a, b with
  | some ks, some ls => inferInstanceAs (Decidable (ks = [] ∨ ls = [] ∨ ∃ k ∈ ks, k ∈ ls))
  | none, _ => .isTrue trivial
  | some _, none => .isTrue trivial

theorem meet_of_mem {a b : List String} {k : String} (ha : k ∈ a) (hb : k ∈ b) :
    Meet (some a) (some b) := .inr (.inr ⟨k, ha, hb⟩)

theorem usable_eq_none {keys : Keys} : usable keys = none ↔ keys = none ∨ keys = some [] := by
  cases keys <;> simp [usable, Option.filter]

theorem usable_eq_some {keys : Keys} {ks : List String} :
    usable keys = some ks ↔ keys = some ks ∧ ks ≠ [] := by
  cases keys <;> simp [usable, Option.filter]
  grind

theorem meet_of_usable_eq_none {a b : Keys} (h : usable a = none) : Meet a b := by
  cases b <;> rcases usable_eq_none.1 h with rfl | rfl <;> simp [Meet]

/-- For keys that can be used, meeting is up to the other side. -/
theorem meet_iff_of_usable {a b : Keys} {ks : List String} (h : usable a = some ks) :
    Meet a b ↔ usable b = none ∨ ∃ ls, usable b = some ls ∧ ∃ k ∈ ks, k ∈ ls := by
  obtain ⟨rfl, hks⟩ := usable_eq_some.1 h
  cases b with
  | none => simp [Meet, usable]
  | some ls => by_cases hls : ls = [] <;> simp [Meet, usable, hls, hks, Option.filter]

/-- What buckets hold after objects with some keys were filed in turn. -/
structure Files (b : Buckets) (all : List Keys) : Prop where
  size : b.size = all.length
  byKey (k : String) (i : Nat) :
    i ∈ b.byKey.getD k [] ↔ ∃ keys ks, all[i]? = some keys ∧ usable keys = some ks ∧ k ∈ ks
  unfiled (i : Nat) : i ∈ b.unfiled ↔ ∃ keys, all[i]? = some keys ∧ usable keys = none

theorem files_empty : Files empty [] := by
  refine ⟨rfl, fun k i => ?_, fun i => ?_⟩ <;> simp [empty]

/-- Filing a position under some keys adds it to the buckets of these keys only. -/
theorem mem_getD_foldl_insert {ks : List String} {m : Std.HashMap String (List Nat)}
    {k : String} {n i : Nat} :
    i ∈ (ks.foldl (fun m k => m.insert k (n :: m.getD k [])) m).getD k [] ↔
      i ∈ m.getD k [] ∨ i = n ∧ k ∈ ks := by
  induction ks generalizing m with
  | nil => simp
  | cons l ks ih =>
    rw [List.foldl_cons, ih, Std.HashMap.getD_insert]
    by_cases hl : l = k
    · simp [hl]
      grind
    · simp [hl, Ne.symm hl]

theorem files_file {b : Buckets} {all : List Keys} (h : Files b all) (keys : Keys) :
    Files (b.file keys) (all ++ [keys]) := by
  have old (i : Nat) (hi : i ≠ all.length) : (all ++ [keys])[i]? = all[i]? := by grind
  unfold file
  cases hu : usable keys with
  | none =>
    refine ⟨by simp [h.size], fun k i => ?_, fun i => ?_⟩
    · by_cases hi : i = all.length
      · simp [hi, h.byKey, hu]
      · rw [old i hi, h.byKey]
    · by_cases hi : i = all.length
      · simp [hi, h.size, hu]
      · simp [old i hi, h.size, hi, h.unfiled]
  | some ks =>
    refine ⟨by simp [h.size], fun k i => ?_, fun i => ?_⟩
    · by_cases hi : i = all.length
      · simp [hi, mem_getD_foldl_insert, h.byKey, h.size, hu]
      · simp [mem_getD_foldl_insert, h.byKey, h.size, hi, old i hi]
    · by_cases hi : i = all.length
      · simp [hi, h.unfiled, hu]
      · rw [old i hi, h.unfiled]

theorem files_ofKeys (all : List Keys) : Files (ofKeys all) all := by
  induction all using List.reverseRecOn with
  | nil => exact files_empty
  | append_singleton all keys ih =>
    rw [ofKeys, List.foldl_append]
    exact files_file ih keys

theorem mem_candidates {all : List Keys} {keys : Keys} {i : Nat} :
    i ∈ (ofKeys all).candidates keys ↔ ∃ other, all[i]? = some other ∧ Meet keys other := by
  have h := files_ofKeys all
  unfold candidates
  cases hu : usable keys with
  | none =>
    simp [h.size, meet_of_usable_eq_none hu, List.getElem?_eq_some_iff]
  | some ks =>
    simp only [Keyed.mem_keySet, List.mem_append, List.mem_flatMap, List.mem_reverse, h.byKey,
      h.unfiled, meet_iff_of_usable hu]
    grind

theorem ascending_candidates (all : List Keys) (keys : Keys) :
    ((ofKeys all).candidates keys).Pairwise (· < ·) := by
  unfold candidates
  cases usable keys with
  | none => exact List.pairwise_lt_range
  | some ks => exact (Keyed.ascending_keySet _).imp Nat.compare_eq_lt.1

/-- The candidates are all positions but those whose keys do not meet. -/
theorem candidates_ofKeys (all : List Keys) (keys : Keys) :
    (ofKeys all).candidates keys =
      (List.range all.length).filter fun i => all[i]?.any fun other => Meet keys other := by
  refine (ascending_candidates all keys).eq_of_mem_iff (List.pairwise_lt_range.filter _) ?_
  intro i
  rw [mem_candidates, List.mem_filter, List.mem_range]
  grind

end SchemaDelta.Buckets

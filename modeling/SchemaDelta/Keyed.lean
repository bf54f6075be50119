/-!
# Sorted association lists

Entries in strictly ascending key order, one for each key. Writing a key that is
present replaces its entry.
-/

namespace SchemaDelta.Keyed

/-- Write the entry of `k`, in its place in the order. -/
def insert {κ α : Type} [Ord κ] (k : κ) (v : α) : List (κ × α) → List (κ × α)
  | [] => [(k, v)]
  | (l, w) :: rest =>
    match compare k l with
    | .lt => (k, v) :: (l, w) :: rest
    | .eq => (k, v) :: rest
    | .gt => (l, w) :: insert k v rest

/-- The sorted list of some entries; of two for one key the later counts. -/
def ofList {κ α : Type} [Ord κ] (entries : List (κ × α)) : List (κ × α) :=
  entries.foldl (fun acc e => insert e.1 e.2 acc) []

/-- Put a key into a set of keys, a sorted list without repetition. -/
def insertKey {κ : Type} [Ord κ] (k : κ) : List κ → List κ
  | [] => [k]
  | l :: rest =>
    match compare k l with
    | .lt => k :: l :: rest
    | .eq => k :: rest
    | .gt => l :: insertKey k rest

/-- The set of some keys. -/
def keySet {κ : Type} [Ord κ] (ks : List κ) : List κ := ks.foldr insertKey []

variable {κ α : Type} [Ord κ]

/-- The keys ascend strictly. -/
def Sorted (entries : List (κ × α)) : Prop := entries.Pairwise fun a b => compare a.1 b.1 = .lt

theorem mem_insert {k : κ} {v : α} {e : κ × α} {entries : List (κ × α)}
    (h : e ∈ insert k v entries) : e = (k, v) ∨ e ∈ entries := by
  fun_induction insert k v entries <;> grind

theorem sorted_insert [Std.TransOrd κ] [Std.LawfulEqOrd κ] (k : κ) (v : α)
    {entries : List (κ × α)} (h : Sorted entries) : Sorted (insert k v entries) := by
  fun_induction insert k v entries with
  | case1 => simp [Sorted]
  | case2 l w rest hlt =>
    refine List.pairwise_cons.2 ⟨fun e he => ?_, h⟩
    rcases List.mem_cons.1 he with rfl | he
    · exact hlt
    · exact Std.TransCmp.lt_trans hlt (List.rel_of_pairwise_cons h he)
  | case3 l w rest heq =>
    obtain rfl := Std.LawfulEqCmp.eq_of_compare heq
    exact List.pairwise_cons.2 (List.pairwise_cons.1 h)
  | case4 l w rest hgt ih =>
    refine List.pairwise_cons.2 ⟨fun e he => ?_, ih (List.pairwise_cons.1 h).2⟩
    rcases mem_insert he with rfl | he
    · exact Std.OrientedCmp.lt_of_gt hgt
    · exact List.rel_of_pairwise_cons h he

theorem sorted_ofList [Std.TransOrd κ] [Std.LawfulEqOrd κ] (entries : List (κ × α)) :
    Sorted (ofList entries) := by
  suffices ∀ acc : List (κ × α), Sorted acc →
      Sorted (entries.foldl (fun acc e => insert e.1 e.2 acc) acc) from this [] .nil
  induction entries with
  | nil => exact fun _ h => h
  | cons e rest ih => exact fun acc h => ih _ (sorted_insert e.1 e.2 h)

end SchemaDelta.Keyed

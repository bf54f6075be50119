import Mathlib.Data.Set.Card
import Mathlib.Order.Defs.Unbundled
import SchemaDelta.Proofs.Ledger

/-!
# Calls on a ledger

Differences are entered into a ledger and taken out of it in any sequence. The ledger then holds
what the last call on each field left there, in the order of the fields, and so it answers whatever
it is asked. Two fields take one place in the order only if they are the same field, so neither
entering nor searching by the order ever confuses a field with another.

## Main definitions

* `Ledger.Call` — one of the ways to write into a ledger.
* `Ledger.written?` — what the last call on a field left there.
* `Ledger.Keeps` — a ledger that holds a given change of each field.
-/

namespace SchemaDelta

/-! ## The order of fields -/

namespace Field

instance : IsStrictTotalOrder Field (compare · · = .lt) where
  irrefl _ hf := Keyed.ne_of_compare (ne_of_eq_of_ne hf (by decide)) rfl
  trans _ _ _ hfg hgh := Std.TransCmp.lt_trans hfg hgh
  trichotomous f g hfg hgf := by
    cases h : compare f g with
    | lt => exact absurd h hfg
    | eq => exact Std.LawfulEqCmp.eq_of_compare h
    | gt => exact absurd (Std.OrientedCmp.lt_of_gt h) hgf

end Field

namespace Ledger

variable {l : Ledger} {f : Field}

/-- One of the ways to write into a ledger. -/
inductive Call where
  | add (field : Field) (reference comparison : Option Value)
  | addWithMessage (message : String) (field : Field) (reference comparison : Option Value)
  | remove (field : Field)

namespace Call

def field : Call → Field
  | add f _ _ => f
  | addWithMessage _ f _ _ => f
  | remove f => f

/-- What is left at the field of the call. -/
def left? : Call → Option Change
  | add _ reference comparison => some ⟨reference, comparison, none⟩
  | addWithMessage message _ reference comparison => some ⟨reference, comparison, some message⟩
  | remove _ => none

end Call

def perform (l : Ledger) : Call → Ledger
  | .add f reference comparison => l.enter f reference comparison none
  | .addWithMessage message f reference comparison =>
    l.enter f reference comparison (some message)
  | .remove f => (l.remove f).2

def performAll (l : Ledger) (calls : List Call) : Ledger := calls.foldl perform l

/-- The last call on a field. -/
def lastCall? (calls : List Call) (f : Field) : Option Call :=
  calls.reverse.find? fun call => call.field == f

/-- What the last call on a field left there. -/
def written? (calls : List Call) (f : Field) : Option Change := (lastCall? calls f).bind Call.left?

/-! ## One call -/

theorem perform_eq_withdraw {call : Call} (h : call.left? = none) :
    l.perform call = l.withdraw call.field := by
  cases call <;> first | rfl | cases h

theorem perform_eq_insert {call : Call} {c : Change} (h : call.left? = some c) :
    l.perform call = { l with entries := Keyed.insert call.field c l.entries } := by
  cases call <;> cases h <;> rfl

theorem sorted_perform (call : Call) (h : Keyed.Sorted l.entries) :
    Keyed.Sorted (l.perform call).entries := by
  cases hleft : call.left? with
  | none => exact perform_eq_withdraw hleft ▸ h.filter _
  | some c => exact perform_eq_insert hleft ▸ Keyed.sorted_insert _ _ h

/-- A call decides about its own field and about no other. -/
theorem get?_perform (call : Call) :
    (l.perform call).get? f = if f = call.field then call.left? else l.get? f := by
  cases hleft : call.left? with
  | none =>
    rw [perform_eq_withdraw hleft]
    exact Keyed.lookup_filter_ne
  | some c =>
    rw [perform_eq_insert hleft]
    exact Keyed.lookup_insert

/-! ## Many calls -/

theorem performAll_concat (calls : List Call) (call : Call) :
    l.performAll (calls ++ [call]) = (l.performAll calls).perform call :=
  List.foldl_concat ..

theorem lastCall?_concat (calls : List Call) (call : Call) :
    lastCall? (calls ++ [call]) f = if f = call.field then some call else lastCall? calls f := by
  by_cases hf : f = call.field
  · simp [lastCall?, hf]
  · simp [lastCall?, hf, Ne.symm hf]

theorem sorted_performAll (calls : List Call) (h : Keyed.Sorted l.entries) :
    Keyed.Sorted (l.performAll calls).entries := by
  induction calls using List.reverseRecOn with
  | nil => exact h
  | append_singleton calls call ih => exact performAll_concat calls call ▸ sorted_perform call ih

/-- A field on which there were calls has what the last one left; any other is as it was. -/
theorem get?_performAll (calls : List Call) :
    (l.performAll calls).get? f = (lastCall? calls f).elim (l.get? f) Call.left? := by
  induction calls using List.reverseRecOn with
  | nil => rfl
  | append_singleton calls call ih =>
    rw [performAll_concat, get?_perform, lastCall?_concat, ih]
    split <;> rfl

/-! ## What a ledger answers -/

/-- A ledger that holds, in field order, the given change of each field and nothing else, and that
answers whatever it is asked by it. -/
structure Keeps (l : Ledger) (change? : Field → Option Change) : Prop where
  mem_differences : ∀ d, d ∈ l.differences ↔ change? d.field = some d.change
  ascending : l.differences.Pairwise fun d e => Ord.compare d.field e.field = .lt
  get? : ∀ f, l.get? f = change? f
  contains : ∀ f, l.contains f = (change? f).isSome
  size : l.size = Set.encard {f | (change? f).isSome}
  removed : ∀ f, (l.remove f).1 = (change? f).isSome
  search? : ∀ f, Keyed.search? f l.entries = change? f
  erase : ∀ f, Keyed.erase f l.entries = (l.remove f).2.entries

theorem mem_fields_iff_isSome (h : Keyed.Sorted l.entries) : f ∈ l.fields ↔ (l.get? f).isSome := by
  rw [mem_fields, Option.isSome_iff_exists]
  exact exists_congr fun c => Keyed.mem_iff_lookup h

theorem nodup_fields (h : Keyed.Sorted l.entries) : l.fields.Nodup :=
  List.pairwise_map.2 (h.imp fun hlt => (Keyed.ne_of_compare (by simp [hlt])).symm)

theorem size_eq_encard (h : Keyed.Sorted l.entries) :
    l.size = Set.encard {f | (l.get? f).isSome} := by
  have fields : {f | (l.get? f).isSome} = (l.fields.toFinset : Set Field) := by
    ext f
    simp [mem_fields_iff_isSome h]
  rw [fields, Set.encard_coe_eq_coe_finsetCard, List.toFinset_card_of_nodup (nodup_fields h)]
  simp [size, Ledger.fields]

theorem keeps_of_sorted (h : Keyed.Sorted l.entries) : l.Keeps l.get? where
  mem_differences d := by
    rw [get?, ← Keyed.mem_iff_lookup (e := (d.field, d.change)) h, differences, List.mem_map]
    exact ⟨fun ⟨e, he, same⟩ => same ▸ he, fun he => ⟨_, he, rfl⟩⟩
  ascending := List.pairwise_map.2 h
  get? _ := rfl
  contains _ := rfl
  size := size_eq_encard h
  removed _ := rfl
  search? _ := Keyed.search?_eq_lookup h
  erase _ := Keyed.erase_eq_filter h

/-- The order of fields is strict and total, and no two different fields are equal in it; a ledger
that was empty, whatever it suppresses, keeps after any calls what the last call on each field left
there. -/
theorem keeps_performAll :
    (IsStrictTotalOrder Field (Ord.compare · · = .lt) ∧
      (∀ f g : Field, Ord.compare f g = .eq ↔ f = g) ∧
      ∀ f g : Field, Ord.compare f g = .gt ↔ Ord.compare g f = .lt) ∧
    ∀ (suppressed : List Field) (calls : List Call),
      (performAll ⟨suppressed, []⟩ calls).Keeps (written? calls) := by
  refine ⟨⟨inferInstance, fun f g => Std.LawfulEqCmp.compare_eq_iff_eq,
    fun f g => Std.OrientedCmp.gt_iff_lt⟩, ?_⟩
  intro suppressed calls
  have sorted := sorted_performAll (l := ⟨suppressed, []⟩) calls .nil
  have written : (performAll ⟨suppressed, []⟩ calls).get? = written? calls := by
    funext f
    rw [get?_performAll, written?]
    cases lastCall? calls f <;> rfl
  exact written ▸ keeps_of_sorted sorted

example : (performAll empty [.add .remarks none none, .add (.custom "remarks") none none,
    .add .name none none, .remove .remarks]).fields = [.name, .custom "remarks"] := by
  decide +kernel

end Ledger

end SchemaDelta

import Mathlib.Algebra.GroupWithZero.Nat
import Mathlib.Data.String.Basic
import SchemaDelta.Proofs.Account
import SchemaDelta.Proofs.Keyed
import SchemaDelta.Proofs.Reordering
import SchemaDelta.Report

/-!
# Arranged reports

A report tells what a run found and nothing else. It goes kind by kind, containers first, and
by names within a kind; what has one kind and one name keeps the order in which it was found.
The counts of the kinds sum up to the totals, and the totals are zero when nothing was found.

## Main definitions

* `Report.Arranges` — a list holds what was found in the order of reports.
* `Report.Entry.Names`, `Report.Entry.Recounts` — what an entry says of an object or a pair.
* `Report.Lists` — entries say what was found, in order.
* `Report.Tells` — a report says exactly what some findings hold.
-/

namespace SchemaDelta

variable {α : Type} {k : Kind}

/-! ## Sorting by names -/

namespace Findings

theorem displayOrder_ne_gt {a b : Object} :
    (displayOrder a b != .gt) = true ↔ a.display ≤ b.display := by
  rw [bne_iff_ne]
  exact compare_le_iff_le

theorem displayOrder_trans (key : α → Object) (a b c : α)
    (hab : (displayOrder (key a) (key b) != .gt) = true)
    (hbc : (displayOrder (key b) (key c) != .gt) = true) :
    (displayOrder (key a) (key c) != .gt) = true :=
  displayOrder_ne_gt.2 ((displayOrder_ne_gt.1 hab).trans (displayOrder_ne_gt.1 hbc))

theorem displayOrder_total (key : α → Object) (a b : α) :
    (displayOrder (key a) (key b) != .gt || displayOrder (key b) (key a) != .gt) = true := by
  rw [Bool.or_eq_true, displayOrder_ne_gt, displayOrder_ne_gt]
  exact le_total ..

theorem perm_sortBy (key : α → Object) (xs : List α) : (sortBy key displayOrder xs).Perm xs :=
  List.mergeSort_perm ..

theorem pairwise_sortBy (key : α → Object) (xs : List α) :
    (sortBy key displayOrder xs).Pairwise fun a b => (key a).display ≤ (key b).display :=
  (List.pairwise_mergeSort (displayOrder_trans key) (displayOrder_total key) xs).imp
    displayOrder_ne_gt.1

/-- What has one name keeps its order. -/
theorem filter_sortBy (key : α → Object) (xs : List α) (t : String) :
    (sortBy key displayOrder xs).filter (fun x => (key x).display == t) =
      xs.filter fun x => (key x).display == t := by
  have tied : (xs.filter fun x => (key x).display == t).Pairwise
      fun a b => (displayOrder (key a) (key b) != .gt) = true := by
    apply List.pairwise_of_forall_mem_list
    intro a ha b hb
    have ha := eq_of_beq (List.mem_filter.1 ha).2
    have hb := eq_of_beq (List.mem_filter.1 hb).2
    exact displayOrder_ne_gt.2 (le_of_eq (ha.trans hb.symm))
  have kept := (List.sublist_mergeSort (displayOrder_trans key) (displayOrder_total key) tied
    List.filter_sublist).filter fun x => (key x).display == t
  rw [List.filter_filter] at kept
  simp only [Bool.and_self] at kept
  exact (kept.eq_of_length ((perm_sortBy key xs).filter _).length_eq.symm).symm

/-- Sorting puts each element in front of the first that is not less. -/
theorem sortBy_eq_insertionSort (key : α → Object) (xs : List α) :
    sortBy key displayOrder xs = xs.insertionSort fun a b => (key a).display ≤ (key b).display := by
  induction xs with
  | nil => rw [sortBy, List.mergeSort_nil, List.insertionSort_nil]
  | cons x xs ih =>
    obtain ⟨less, rest, whole, apart, passed⟩ :=
      List.mergeSort_cons (displayOrder_trans key) (displayOrder_total key) x xs
    have sorted := pairwise_sortBy key (x :: xs)
    have passed : ∀ a ∈ less, decide (¬(key x).display ≤ (key a).display) = true := by
      intro a ha
      rw [decide_eq_true_iff, ← displayOrder_ne_gt]
      simpa using passed a ha
    rw [List.insertionSort_cons, ← ih, List.orderedInsert_eq_take_drop]
    rw [sortBy, whole] at sorted ⊢
    rw [sortBy, apart, List.takeWhile_append_of_pos passed, List.dropWhile_append_of_pos passed]
    cases rest with
    | nil => simp
    | cons b rest =>
      have first : (key x).display ≤ (key b).display :=
        (List.pairwise_cons.1 (List.pairwise_append.1 sorted).2.1).1 b List.mem_cons_self
      simp only [List.takeWhile_cons, List.dropWhile_cons, first, not_true_eq_false, decide_false,
        Bool.false_eq_true, if_false, List.append_nil]

end Findings

/-! ## Lists of a report -/

/-- A list of some kinds, kind by kind, holds of each kind what it was put together from. -/
theorem filter_flatMap_of_nodup {kind : α → Kind} {ks : List Kind} (hks : ks.Nodup)
    {part : Kind → List α} (hpart : ∀ k, ∀ x ∈ part k, kind x = k) (hk : k ∈ ks) :
    (ks.flatMap part).filter (fun x => kind x == k) = part k := by
  have own : (part k).filter (fun x => kind x == k) = part k := by
    rw [List.filter_eq_self]
    intro x hx
    exact beq_iff_eq.2 (hpart k x hx)
  have other {l : Kind} (hl : l ≠ k) : (part l).filter (fun x => kind x == k) = [] := by
    rw [List.filter_eq_nil_iff]
    intro x hx hkind
    exact hl (hpart l x hx ▸ eq_of_beq hkind)
  induction ks with
  | nil => cases hk
  | cons l ks ih =>
    obtain ⟨hl, hks⟩ := List.nodup_cons.1 hks
    rw [List.flatMap_cons, List.filter_append]
    by_cases same : l = k
    · subst same
      have rest : (ks.flatMap part).filter (fun x => kind x == l) = [] := by
        rw [List.filter_flatMap, List.flatMap_eq_nil_iff]
        intro m hm
        apply other
        rintro rfl
        exact hl hm
      rw [own, rest, List.append_nil]
    · rw [other same, List.nil_append, ih hks (List.mem_of_ne_of_mem (Ne.symm same) hk)]

namespace Report

/-- What was found is told kind by kind, containers first, and by names within a kind. What has
one kind and one name keeps its order. -/
structure Arranges (key : α → Object) (told found : List α) : Prop where
  perm : told.Perm found
  grouped : Grouped (fun x => (key x).kind) Kind.all told
  ascending (k : Kind) : (told.filter fun x => (key x).kind == k).Pairwise
    fun x y => (key x).display ≤ (key y).display
  stable (k : Kind) (t : String) :
    told.filter (fun x => (key x).kind == k && (key x).display == t) =
      found.filter fun x => (key x).kind == k && (key x).display == t

/-- What was found, in the order of reports. -/
def arranged (key : α → Object) (ks : List Kind) (found : List α) : List α :=
  ks.flatMap fun k => Findings.sortBy key Findings.displayOrder
    (found.filter fun x => (key x).kind == k)

variable {p : Policy} {key : α → Object} {found : List α}

theorem arranged_eq_insertionSort {ks : List Kind} :
    arranged key ks found = ks.flatMap fun k =>
      (found.filter fun x => (key x).kind == k).insertionSort
        fun a b => (key a).display ≤ (key b).display := by
  simp only [arranged, Findings.sortBy_eq_insertionSort]

theorem kind_of_mem_sortBy {x : α}
    (hx : x ∈ Findings.sortBy key Findings.displayOrder (found.filter fun x => (key x).kind == k)) :
    (key x).kind = k :=
  eq_of_beq (List.mem_filter.1 ((Findings.perm_sortBy ..).subset hx)).2

/-- The kinds that were not compared need not be left out. -/
theorem arranged_orderedKinds (h : Grouped (fun x => (key x).kind) p.orderedKinds found) :
    arranged key p.orderedKinds found = arranged key Kind.all found := by
  rw [arranged, flatMap_orderedKinds]
  refine List.flatMap_congr fun k _ => ?_
  split
  · rfl
  next hk =>
    have empty : found.filter (fun x => (key x).kind == k) = [] := by
      rw [List.filter_eq_nil_iff]
      intro x hx hkind
      apply hk
      rw [← mem_orderedKinds, ← eq_of_beq hkind]
      exact h.key_mem hx
    simp [empty, Findings.sortBy]

theorem arranges_arranged (key : α → Object)
    (h : Grouped (fun x => (key x).kind) p.orderedKinds found) :
    Arranges key (arranged key p.orderedKinds found) found := by
  have perm : (arranged key p.orderedKinds found).Perm found := by
    conv_rhs => rw [h]
    exact List.Perm.flatMap_left _ fun k _ => Findings.perm_sortBy ..
  rw [arranged_orderedKinds h] at perm ⊢
  have mem (k : Kind) : k ∈ Kind.all := by cases k <;> decide
  have part (k : Kind) : (arranged key Kind.all found).filter (fun x => (key x).kind == k) =
      Findings.sortBy key Findings.displayOrder (found.filter fun x => (key x).kind == k) :=
    filter_flatMap_of_nodup (by decide) (fun _ _ => kind_of_mem_sortBy) (mem k)
  refine ⟨perm, ?_, fun k => ?_, fun k t => ?_⟩
  · exact List.flatMap_congr fun k _ => (part k).symm
  · rw [part k]
    exact Findings.pairwise_sortBy ..
  · simp only [Bool.and_comm (_ == k)]
    rw [← List.filter_filter, part k, Findings.filter_sortBy, List.filter_filter]

end Report

/-! ## What entries say -/

namespace Report

/-- An entry says how a field changed: its values in writing, and a message. The usual message is
made of both values, of which one that is not set is called `null`. -/
structure DifferenceEntry.States (e : DifferenceEntry) (f : Field) (c : Change) : Prop where
  field : e.field = f
  reference : e.reference = c.reference.map Value.display
  comparison : e.comparison = c.comparison.map Value.display
  ownMessage (m : String) (h : c.message = some m) : e.message = m
  usualMessage (h : c.message = none) :
    e.message = f.text ++ " changed from '" ++ e.reference.getD "null" ++ "' to '" ++
      e.comparison.getD "null" ++ "'"

/-- An entry names an object that only one side has. -/
structure Entry.Names (e : Entry) (o : Object) : Prop where
  kind : e.kind = o.kind
  object : e.object = o.display
  comparison : e.comparison = none
  differences : e.differences = []

/-- An entry names both objects of a pair and says how they differ, field by field. -/
structure Entry.Recounts (e : Entry) (c : ChangedPair) : Prop where
  kind : e.kind = c.reference.kind
  object : e.object = c.reference.display
  comparison : e.comparison = some c.comparison.display
  differences : List.Forall₂ (fun d x => d.States x.1 x.2) e.differences c.ledger.entries

theorem DifferenceEntry.states_ofDifference (d : Difference) :
    (ofDifference d).States d.field d.change where
  field := rfl
  reference := rfl
  comparison := rfl
  ownMessage m h := by
    change d.text = m
    rw [Difference.text, h]
  usualMessage h := by
    change d.text = _
    rw [Difference.text, h]
    obtain ⟨f, r, c, _⟩ := d
    cases r <;> cases c <;> rfl

theorem Entry.names_ofObject (o : Object) : (ofObject o).Names o := ⟨rfl, rfl, rfl, rfl⟩

theorem Entry.recounts_ofChanged (c : ChangedPair) : (ofChanged c).Recounts c where
  kind := rfl
  object := rfl
  comparison := rfl
  differences := by
    rw [ofChanged, Ledger.differences, List.map_map, List.forall₂_map_left_iff, List.forall₂_same]
    exact fun x _ => DifferenceEntry.states_ofDifference ⟨x.1, x.2⟩

/-- Entries say what was found: all of it is told in the order of reports, and the entries
themselves go by their kinds and the names in them. -/
structure Lists (tells : Entry → α → Prop) (key : α → Object) (entries : List Entry)
    (found : List α) : Prop where
  told : ∃ told, List.Forall₂ tells entries told ∧ Arranges key told found
  grouped : Grouped Entry.kind Kind.all entries
  ascending (k : Kind) : (entries.filter fun e => e.kind == k).Pairwise fun d e =>
    d.object ≤ e.object

variable {key : α → Object} {told found : List α} {tells : Entry → α → Prop} {write : α → Entry}

/-- What was arranged stays in order when an entry is written for each. -/
theorem Arranges.lists (h : Arranges key told found) (each : ∀ x, tells (write x) x)
    (kind : ∀ x, (write x).kind = (key x).kind)
    (object : ∀ x, (write x).object = (key x).display) :
    Lists tells key (told.map write) found := by
  have ofKind (k : Kind) : (told.map write).filter (fun e => e.kind == k) =
      (told.filter fun x => (key x).kind == k).map write := by
    simp only [List.filter_map, Function.comp_def, kind]
  refine ⟨⟨told, ?_, h⟩, ?_, fun k => ?_⟩
  · rw [List.forall₂_map_left_iff, List.forall₂_same]
    exact fun x _ => each x
  · rw [Grouped]
    simp only [ofKind]
    rw [← List.map_flatMap, ← h.grouped]
  · rw [ofKind, List.pairwise_map]
    simpa only [object] using h.ascending k

end Report

/-! ## Counts -/

instance : Std.LawfulEqOrd Kind where
  compare_self {k} := by cases k <;> rfl
  eq_of_compare {k l} := by cases k <;> cases l <;> decide

instance : Std.TransOrd Kind := inferInstanceAs (Std.TransCmp (compareOn Kind.ctorIdx))

namespace Report

variable {f : Findings} {timestamp : String}

theorem countsOf_eq (f : Findings) (k : Kind) :
    countsOf f k = ⟨f.missing.countP (·.kind == k), f.unexpected.countP (·.kind == k),
      f.changed.countP (·.reference.kind == k)⟩ := by
  simp only [List.countP_eq_length_filter]
  rfl

theorem nodup_counted (f : Findings) :
    ((((reportedKinds f).map fun k => (k, countsOf f k)).filter fun c => c.2.total != 0).map
      Prod.fst).Nodup := by
  have distinct : (((reportedKinds f).map fun k => (k, countsOf f k)).map Prod.fst).Nodup := by
    rw [List.map_map]
    exact (List.map_id _).symm ▸ List.Nodup.filter _ (by decide)
  exact distinct.sublist (List.filter_sublist.map _)

theorem perm_byKind : (ofFindings f timestamp).byKind.Perm
    (((reportedKinds f).map fun k => (k, countsOf f k)).filter fun c => c.2.total != 0) :=
  Keyed.perm_ofList (nodup_counted f)

theorem nodup_byKind : ((ofFindings f timestamp).byKind.map Prod.fst).Nodup :=
  (perm_byKind.map Prod.fst).nodup_iff.2 (nodup_counted f)

theorem mem_byKind {c : Counts} : (k, c) ∈ (ofFindings f timestamp).byKind ↔
    k ∈ f.kinds ∧ c = countsOf f k ∧ c.total ≠ 0 := by
  have mem : k ∈ Kind.all := by cases k <;> decide
  simp only [perm_byKind.mem_iff, List.mem_filter, List.mem_map, Prod.mk.injEq, bne_iff_ne,
    reportedKinds, List.contains_iff_mem]
  constructor
  · rintro ⟨⟨_, hk, rfl, rfl⟩, hc⟩
    exact ⟨hk.2, rfl, hc⟩
  · rintro ⟨hk, rfl, hc⟩
    exact ⟨⟨k, ⟨mem, hk⟩, rfl, rfl⟩, hc⟩

/-- Kinds that nothing was found of add nothing to a sum. -/
theorem sum_byKind (count : Counts → Nat) (hcount : ∀ c, count c ≤ c.total) :
    ((ofFindings f timestamp).byKind.map fun c => count c.2).sum =
      ((reportedKinds f).map fun k => count (countsOf f k)).sum := by
  rw [(perm_byKind.map fun c => count c.2).sum_nat]
  induction reportedKinds f with
  | nil => rfl
  | cons k ks ih =>
    rw [List.map_cons, List.filter_cons]
    split
    next => rw [List.map_cons, List.sum_cons, ih, List.map_cons, List.sum_cons]
    next empty =>
      have bound := hcount (countsOf f k)
      have zero : count (countsOf f k) = 0 := by
        simp at empty
        omega
      rw [ih, List.map_cons, List.sum_cons, zero, Nat.zero_add]

/-- A report says exactly what findings hold. -/
structure Tells (r : Report) (f : Findings) : Prop where
  missing : Lists Entry.Names id r.missing f.missing
  unexpected : Lists Entry.Names id r.unexpected f.unexpected
  changed : Lists Entry.Recounts (·.reference) r.changed f.changed
  lengths : r.total = ⟨r.missing.length, r.unexpected.length, r.changed.length⟩
  sums : r.total = ⟨(r.byKind.map (·.2.missing)).sum, (r.byKind.map (·.2.unexpected)).sum,
    (r.byKind.map (·.2.changed)).sum⟩
  /-- A kind has one entry, and that counts what was found of it. -/
  counts (k : Kind) (c : Counts) (h : (k, c) ∈ r.byKind) :
    c = ⟨f.missing.countP (·.kind == k), f.unexpected.countP (·.kind == k),
      f.changed.countP (·.reference.kind == k)⟩
  kinds : (r.byKind.map Prod.fst).Nodup
  listed (k : Kind) : k ∈ r.byKind.map Prod.fst ↔ (∃ o ∈ f.missing, o.kind = k) ∨
    (∃ o ∈ f.unexpected, o.kind = k) ∨ ∃ x ∈ f.changed, x.reference.kind = k
  hasDifferences : r.hasDifferences = true ↔ f.areEqual = false

end Report

/-! ## The report of a run -/

namespace Comparison

variable {j : Judge} {p : Policy} {R C : Snapshot} {f g : Findings}

theorem kinds_foldlM {ks : List Kind} (h : ks.foldlM (findingsOfKind j R C) f = .ok g) :
    g.kinds = f.kinds := by
  induction ks generalizing f with
  | nil =>
    cases h
    rfl
  | cons k ks ih =>
    obtain ⟨f', hf', h⟩ := Fallible.bind_eq_ok.1 h
    obtain ⟨m, all, -, -, rfl⟩ := findingsOfKind_eq_ok hf'
    rw [ih h]

end Comparison

namespace Report

variable {j : Judge} {p : Policy} {R C : Snapshot} {f : Findings}

theorem reportedKinds_eq (h : compareSnapshots j p R C = .ok f) :
    reportedKinds f = p.orderedKinds := by
  rw [reportedKinds, Comparison.kinds_foldlM h]
  rfl

/-- A report goes by the kinds that were compared. -/
theorem missing_ofFindings (h : compareSnapshots j p R C = .ok f) (timestamp : String) :
    (ofFindings f timestamp).missing = (arranged id p.orderedKinds f.missing).map .ofObject := by
  rw [arranged, List.map_flatMap, ← reportedKinds_eq h]
  rfl

theorem unexpected_ofFindings (h : compareSnapshots j p R C = .ok f) (timestamp : String) :
    (ofFindings f timestamp).unexpected =
      (arranged id p.orderedKinds f.unexpected).map .ofObject := by
  rw [arranged, List.map_flatMap, ← reportedKinds_eq h]
  rfl

theorem changed_ofFindings (h : compareSnapshots j p R C = .ok f) (timestamp : String) :
    (ofFindings f timestamp).changed =
      (arranged (·.reference) p.orderedKinds f.changed).map .ofChanged := by
  rw [arranged, List.map_flatMap, ← reportedKinds_eq h]
  rfl

theorem total_countsOf_ne_zero : (countsOf f k).total ≠ 0 ↔ (∃ o ∈ f.missing, o.kind = k) ∨
    (∃ o ∈ f.unexpected, o.kind = k) ∨ ∃ x ∈ f.changed, x.reference.kind = k := by
  have found {α : Type} (key : α → Kind) (xs : List α) :
      (xs.filter fun x => key x == k).length ≠ 0 ↔ ∃ x ∈ xs, key x = k := by
    simp [List.length_eq_zero_iff, List.filter_eq_nil_iff]
  rw [← found Object.kind, ← found Object.kind, ← found fun x : ChangedPair => x.reference.kind]
  simp only [Counts.total, countsOf, Findings.missingOf, Findings.unexpectedOf, Findings.changedOf]
  omega

/-- Whatever was found is of a kind that was compared. -/
theorem kind_mem_of_total_ne_zero (h : compareSnapshots j p R C = .ok f)
    (hk : (countsOf f k).total ≠ 0) : k ∈ f.kinds := by
  have accounted := accounted_compareSnapshots h
  rw [Comparison.kinds_foldlM h]
  apply mem_orderedKinds.1
  rcases total_countsOf_ne_zero.1 hk with ⟨o, ho, rfl⟩ | ⟨o, ho, rfl⟩ | ⟨x, hx, rfl⟩
  · exact accounted.missing.key_mem ho
  · exact accounted.unexpected.key_mem ho
  · exact accounted.changed.key_mem hx

theorem total_ofFindings (h : compareSnapshots j p R C = .ok f) (timestamp : String) :
    (ofFindings f timestamp).total =
      ⟨f.missing.length, f.unexpected.length, f.changed.length⟩ := by
  have accounted := accounted_compareSnapshots h
  have missing : (ofFindings f timestamp).missing.length = f.missing.length := by
    rw [missing_ofFindings h, List.length_map]
    exact (arranges_arranged id accounted.missing).perm.length_eq
  have unexpected : (ofFindings f timestamp).unexpected.length = f.unexpected.length := by
    rw [unexpected_ofFindings h, List.length_map]
    exact (arranges_arranged id accounted.unexpected).perm.length_eq
  have changed : (ofFindings f timestamp).changed.length = f.changed.length := by
    rw [changed_ofFindings h, List.length_map]
    exact (arranges_arranged ChangedPair.reference accounted.changed).perm.length_eq
  rw [← missing, ← unexpected, ← changed]
  rfl

/-- The kinds count all of a list that goes kind by kind. -/
theorem sum_byKind_eq_length (h : compareSnapshots j p R C = .ok f) (timestamp : String)
    {count : Counts → Nat} (hcount : ∀ c, count c ≤ c.total) {kind : α → Kind} {found : List α}
    (grouped : Grouped kind p.orderedKinds found)
    (hfound : ∀ k, count (countsOf f k) = (found.filter fun x => kind x == k).length) :
    ((ofFindings f timestamp).byKind.map fun c => count c.2).sum = found.length := by
  conv_rhs => rw [grouped, List.length_flatMap]
  rw [sum_byKind count hcount, reportedKinds_eq h]
  simp only [hfound]

theorem hasDifferences_ofFindings (h : compareSnapshots j p R C = .ok f) (timestamp : String) :
    (ofFindings f timestamp).hasDifferences = true ↔ f.areEqual = false := by
  rw [hasDifferences, bne_iff_ne, total_ofFindings h, Counts.total]
  rw [← Bool.not_eq_true, Findings.areEqual_iff]
  simp only [← List.length_eq_zero_iff]
  omega

/-- The report of a run tells all that the run found, and nothing else: each list goes by kinds
and names, what stands out in neither keeps its order, and the counts add up. -/
theorem tells_of_compareSnapshots (h : compareSnapshots j p R C = .ok f) (timestamp : String) :
    (ofFindings f timestamp).Tells f where
  missing := by
    rw [missing_ofFindings h]
    exact (arranges_arranged id (accounted_compareSnapshots h).missing).lists
      Entry.names_ofObject (fun _ => rfl) fun _ => rfl
  unexpected := by
    rw [unexpected_ofFindings h]
    exact (arranges_arranged id (accounted_compareSnapshots h).unexpected).lists
      Entry.names_ofObject (fun _ => rfl) fun _ => rfl
  changed := by
    rw [changed_ofFindings h]
    exact (arranges_arranged ChangedPair.reference (accounted_compareSnapshots h).changed).lists
      Entry.recounts_ofChanged (fun _ => rfl) fun _ => rfl
  lengths := rfl
  sums := by
    have accounted := accounted_compareSnapshots h
    have bounds (c : Counts) :
        c.missing ≤ c.total ∧ c.unexpected ≤ c.total ∧ c.changed ≤ c.total := by
      rw [Counts.total]
      omega
    rw [total_ofFindings h,
      sum_byKind_eq_length h timestamp (bounds · |>.1) accounted.missing fun _ => rfl,
      sum_byKind_eq_length h timestamp (bounds · |>.2.1) accounted.unexpected fun _ => rfl,
      sum_byKind_eq_length h timestamp (bounds · |>.2.2) accounted.changed fun _ => rfl]
  counts := by
    intro k c hc
    rw [(mem_byKind.1 hc).2.1, countsOf_eq]
  kinds := nodup_byKind
  listed := by
    intro k
    rw [← total_countsOf_ne_zero, List.mem_map]
    constructor
    · rintro ⟨c, hc, rfl⟩
      obtain ⟨-, same, total⟩ := mem_byKind.1 hc
      rwa [← same]
    · intro total
      exact ⟨_, mem_byKind.2 ⟨kind_mem_of_total_ne_zero h total, rfl, total⟩, rfl⟩
  hasDifferences := hasDifferences_ofFindings h timestamp

/-- A table of which no more than its name and a remark is known. -/
def remarkedTable (origin position : Nat) (name : String) (remarks : Option String) : Table :=
  ⟨.entry origin .table position, some name, none, remarks, none, none, []⟩

/-- A column of `users` of which no more than its name and a remark is known. -/
def usersColumn (origin position : Nat) (name : String) (remarks : Option String) : Object :=
  .column
    { tag := .entry origin .column position, name := some name,
      relation := some (remarkedTable origin 0 "users" none), dataType := none, nullable := none,
      defaultValue := none, remarks, order := none, computed := none, descending := none,
      autoIncrement := none, attributes := [] }

/-- Something is missing, unexpected and changed, and two changed tables have one name. -/
theorem tells_of_compareSnapshots_users :
    let j := (Rulebook.builtin .generic).judge .generic .standard
    let R : Snapshot := ⟨none, none, [
      .table (remarkedTable 0 0 "users" (some "people")),
      .table (remarkedTable 0 1 "log" (some "old")),
      .table (remarkedTable 0 2 "zones" none), .table (remarkedTable 0 3 "areas" none),
      .table (remarkedTable 0 4 "log" (some "older")), usersColumn 0 5 "id" none]⟩
    let C : Snapshot := ⟨none, none, [
      usersColumn 1 0 "mail" none, usersColumn 1 1 "id" (some "key"),
      .table (remarkedTable 1 2 "log" (some "new")),
      .table (remarkedTable 1 3 "log" (some "newer")), .table (remarkedTable 1 4 "tags" none),
      .table (remarkedTable 1 0 "users" (some "accounts"))]⟩
    ∃ f, compareSnapshots j .standard R C = .ok f ∧ (ofFindings f "today").Tells f ∧
      (ofFindings f "today").missing =
        [⟨.table, "areas", none, []⟩, ⟨.table, "zones", none, []⟩] ∧
      (ofFindings f "today").unexpected =
        [⟨.table, "tags", none, []⟩, ⟨.column, "users.mail", none, []⟩] ∧
      (ofFindings f "today").changed =
        [⟨.table, "log", some "log",
          [⟨.remarks, some "old", some "new", "remarks changed from 'old' to 'new'"⟩]⟩,
         ⟨.table, "log", some "log",
          [⟨.remarks, some "older", some "newer", "remarks changed from 'older' to 'newer'"⟩]⟩,
         ⟨.table, "users", some "users",
          [⟨.remarks, some "people", some "accounts",
            "remarks changed from 'people' to 'accounts'"⟩]⟩,
         ⟨.column, "users.id", some "users.id",
          [⟨.remarks, none, some "key", "remarks changed from 'null' to 'key'"⟩]⟩] ∧
      (ofFindings f "today").byKind = [(.table, ⟨2, 1, 3⟩), (.column, ⟨0, 1, 1⟩)] := by
  intro j R C
  have scanned : compareSnapshots j .standard R C = scanSnapshots j .standard R C :=
    Rulebook.compareSnapshots_eq_scan (by decide +kernel)
  obtain ⟨f, run⟩ := Fallible.exists_eq_ok_of_isOk (x := scanSnapshots j .standard R C)
    (by decide +kernel)
  have shown {β : Type} (part : Findings → β) {value : β}
      (h : (scanSnapshots j .standard R C).map part = .ok value) : part f = value := by
    rw [run] at h
    exact Except.ok.inj h
  rw [← scanned] at run
  refine ⟨f, run, tells_of_compareSnapshots run "today", ?missing, ?unexpected, ?changed, ?byKind⟩
  case missing =>
    rw [missing_ofFindings run]
    refine shown (fun f => (arranged id Policy.standard.orderedKinds f.missing).map
      Entry.ofObject) ?_
    simp only [arranged_eq_insertionSort]
    decide +kernel
  case unexpected =>
    rw [unexpected_ofFindings run]
    refine shown (fun f => (arranged id Policy.standard.orderedKinds f.unexpected).map
      Entry.ofObject) ?_
    simp only [arranged_eq_insertionSort]
    decide +kernel
  case changed =>
    rw [changed_ofFindings run]
    refine shown (fun f => (arranged (·.reference) Policy.standard.orderedKinds f.changed).map
      Entry.ofChanged) ?_
    simp only [arranged_eq_insertionSort]
    decide +kernel
  case byKind => exact shown (fun f => (ofFindings f "today").byKind) (by decide +kernel)

end Report

end SchemaDelta

import SchemaDelta.Proofs.Exchange
import SchemaDelta.Proofs.Linked
import SchemaDelta.Proofs.Reordering
import SchemaDelta.Proofs.Totality

/-!
# Runs both ways

A run goes through the objects of the one side and searches the other, and takes the first
that it may. Comparing the other way round goes through what was searched before. Where no
object of one of the sides is the same as two of the other, both runs make the same pairs:
of the objects that could join an object, the one that is listed first takes it.

## Main definitions

* `Judge.Joins` — the search from an object may end at another.
* `Judge.Unambiguous` — no object of the one side is the same as two different ones of the other.
* `Pairing.Greedy` — nothing is passed over without a reason.
* `Pairing.Reverse` — one pairing is the other, read from the other side.
* `Findings.Exchanged` — the findings of a run, seen from the other side.
-/

namespace SchemaDelta

open Comparison

variable {j : Judge}

namespace Judge

/-- Keys lead from one object to another that is judged the same. -/
def Joins (j : Judge) (a b : Object) : Prop :=
  j.KeysMeet a b ∧ j.same (some a) (some b) = .ok true

/-- No object of the one side is judged the same as two different objects of the other. -/
def Unambiguous (j : Judge) (xs ys : List Object) : Prop :=
  ∀ x ∈ xs, ∀ y ∈ ys, ∀ y' ∈ ys, j.same (some x) (some y) = .ok true →
    j.same (some x) (some y') = .ok true → y = y'

theorem Unambiguous.ofKind {R C : Snapshot} (h : j.Unambiguous R.objects C.objects) (k : Kind) :
    j.Unambiguous (R.ofKind k) (C.ofKind k) := by
  intro r hr c hc c' hc'
  exact h r (mem_ofKind.1 hr).1 c (mem_ofKind.1 hc).1 c' (mem_ofKind.1 hc').1

/-- The sides may be exchanged: it does not matter which of two objects is asked about the other,
nor from which side they are told to differ, and the search never has to choose on one side. -/
structure Exchangeable (j : Judge) (as bs : List Object) : Prop where
  same : ∀ a ∈ as, ∀ b ∈ bs, j.same (some a) (some b) = j.same (some b) (some a)
  differences : ∀ a ∈ as, ∀ b ∈ bs, j.differences (some b) (some a) [] =
    (j.differences (some a) (some b) []).map Ledger.exchanged
  unambiguous : j.Unambiguous as bs
  nodup : bs.Nodup

theorem keysMeet_comm (a b : Object) : j.KeysMeet a b ↔ j.KeysMeet b a := by
  have meet (ks ls : Keys) : Buckets.Meet ks ls ↔ Buckets.Meet ls ks := by
    cases ks <;> cases ls <;> simp only [Buckets.Meet]
    grind
  unfold KeysMeet
  constructor
  · rintro ⟨ks, ls, hks, hls, h⟩
    exact ⟨ls, ks, hls, hks, (meet ks ls).1 h⟩
  · rintro ⟨ks, ls, hks, hls, h⟩
    exact ⟨ls, ks, hls, hks, (meet ks ls).1 h⟩

variable {as bs : List Object}

theorem Exchangeable.joins_comm (h : j.Exchangeable as bs) {a b : Object} (ha : a ∈ as)
    (hb : b ∈ bs) : j.Joins a b ↔ j.Joins b a := by
  unfold Joins
  rw [keysMeet_comm, h.same a ha b hb]

theorem Exchangeable.differences_iff (h : j.Exchangeable as bs) {a b : Object} (ha : a ∈ as)
    (hb : b ∈ bs) (l : Ledger) : j.differences (some b) (some a) [] = .ok l.exchanged ↔
      j.differences (some a) (some b) [] = .ok l := by
  rw [h.differences a ha b hb, Fallible.map_eq_ok]
  constructor
  · rintro ⟨m, hm, same⟩
    rw [hm, ← m.exchanged_exchanged, same, l.exchanged_exchanged]
  · exact fun hl => ⟨l, hl, rfl⟩

end Judge

/-! ## Reasons to pass over an object -/

namespace Comparison.Settled

variable {objects references : List Object} {taken : List Nat} {outcomes : List Outcome}
  {r c : Object} {i q : Nat}

/-- A run passes over an object only for a reason: it was taken before, or one that is listed
before it is taken. -/
theorem position_of_joins (h : Settled j objects taken references outcomes)
    (hr : references[i]? = some r) (hc : objects[q]? = some c) (joins : j.Joins r c) :
    q ∈ taken ∨ (∃ i' < i, outcomes[i']?.bind Outcome.position? = some q) ∨
      ∃ q' ≤ q, outcomes[i]?.bind Outcome.position? = some q' := by
  obtain ⟨meet, same⟩ := joins
  have not_refused {taken : List Nat} (refused : Refused j objects taken r q) : q ∈ taken := by
    by_contra free
    rw [refused free c hc] at same
    cases same
  induction h generalizing i with
  | done => cases hr
  | unpaired refused _ ih =>
    cases i with
    | zero =>
      cases hr
      have hq := (List.getElem?_eq_some_iff.1 hc).1
      exact .inl (not_refused (refused q hq c hc meet))
    | succ i =>
      rcases ih hr with before | ⟨i', hlt, taker⟩ | found
      · exact .inl before
      · exact .inr (.inl ⟨i' + 1, Nat.succ_lt_succ hlt, taker⟩)
      · exact .inr (.inr found)
  | @paired taken r' d p l rest outcomes _ _ _ _ first _ _ ih =>
    cases i with
    | zero =>
      cases hr
      rcases lt_or_ge q p with hlt | hge
      · exact .inl (not_refused (first q hlt c hc meet))
      · exact .inr (.inr ⟨p, hge, rfl⟩)
    | succ i =>
      rcases ih hr with before | ⟨i', hlt, taker⟩ | found
      · rcases List.mem_cons.1 before with rfl | before
        · exact .inr (.inl ⟨0, Nat.succ_pos i, rfl⟩)
        · exact .inl before
      · exact .inr (.inl ⟨i' + 1, Nat.succ_lt_succ hlt, taker⟩)
      · exact .inr (.inr found)

end Comparison.Settled

/-! ## Pairings read from the other side -/

namespace Pairing

variable {as bs : List Object} {m : Pairing as bs} {n : Pairing bs as} {i : Fin as.length}
  {q : Fin bs.length}

/-- Only what can be joined is paired, and an object is passed over only when it was taken before,
or for one that is listed before it. -/
structure Greedy (m : Pairing as bs) (j : Judge) : Prop where
  joins {i : Fin as.length} {q : Fin bs.length} (h : m.partner i = some q) :
    j.Joins (as.get i) (bs.get q)
  first {i : Fin as.length} {q : Fin bs.length} (h : j.Joins (as.get i) (bs.get q)) :
    (∃ i' < i, m.partner i' = some q) ∨ ∃ q' ≤ q, m.partner i = some q'

/-- One pairs what the other does, read from the other side. -/
def Reverse (m : Pairing as bs) (n : Pairing bs as) : Prop :=
  ∀ i q, m.partner i = some q ↔ n.partner q = some i

/-- Where none of those that are asked can join two objects, an object is taken by the first that
can join it. -/
theorem Greedy.partner_iff (h : m.Greedy j)
    (single : ∀ i q q', j.Joins (as.get i) (bs.get q) → j.Joins (as.get i) (bs.get q') → q = q') :
    m.partner i = some q ↔
      j.Joins (as.get i) (bs.get q) ∧ ∀ i' < i, ¬j.Joins (as.get i') (bs.get q) := by
  constructor
  · intro hq
    refine ⟨h.joins hq, ?_⟩
    intro i' hlt joins
    rcases h.first joins with ⟨i'', hlt', taker⟩ | ⟨q', -, hq'⟩
    · obtain rfl := m.injective hq taker
      exact lt_asymm hlt hlt'
    · obtain rfl := single i' q q' joins (h.joins hq')
      exact hlt.ne (m.injective hq' hq)
  · rintro ⟨joins, first⟩
    rcases h.first joins with ⟨i', hlt, taker⟩ | ⟨q', -, hq'⟩
    · exact absurd (h.joins taker) (first i' hlt)
    · rwa [single i q q' joins (h.joins hq')]

/-- Where none of those that are searched can join two objects, an object takes the first that it
can join. -/
theorem Greedy.partner_iff_of_searched (h : n.Greedy j)
    (single : ∀ i q q', j.Joins (bs.get q) (as.get i) → j.Joins (bs.get q') (as.get i) → q = q') :
    n.partner q = some i ↔
      j.Joins (bs.get q) (as.get i) ∧ ∀ i' < i, ¬j.Joins (bs.get q) (as.get i') := by
  constructor
  · intro hi
    refine ⟨h.joins hi, ?_⟩
    intro i' hlt joins
    rcases h.first joins with ⟨q', hlt', taker⟩ | ⟨i'', hle, hi''⟩
    · exact hlt'.ne (single i' q' q (h.joins taker) joins)
    · obtain rfl := Option.some.inj (hi.symm.trans hi'')
      exact absurd hlt (not_lt.2 hle)
  · rintro ⟨joins, first⟩
    rcases h.first joins with ⟨q', hlt, taker⟩ | ⟨i', hle, hi'⟩
    · exact absurd (single i q' q (h.joins taker) joins) hlt.ne
    · rcases hle.lt_or_eq with hlt | rfl
      · exact absurd (h.joins hi') (first i' hlt)
      · exact hi'

theorem Greedy.reverse (hm : m.Greedy j) (hn : n.Greedy j) (h : j.Exchangeable as bs) :
    m.Reverse n := by
  have comm (i : Fin as.length) (q : Fin bs.length) :
      j.Joins (as.get i) (bs.get q) ↔ j.Joins (bs.get q) (as.get i) :=
    h.joins_comm (List.get_mem ..) (List.get_mem ..)
  have single (i : Fin as.length) (q q' : Fin bs.length) (hq : j.Joins (as.get i) (bs.get q))
      (hq' : j.Joins (as.get i) (bs.get q')) : q = q' := by
    apply h.nodup.injective_get
    exact h.unambiguous _ (List.get_mem ..) _ (List.get_mem ..) _ (List.get_mem ..) hq.2 hq'.2
  intro i q
  rw [hm.partner_iff single, hn.partner_iff_of_searched]
  · simp only [comm]
  · intro i q q' hq hq'
    exact single i q q' ((comm i q).2 hq) ((comm i q').2 hq')

namespace Reverse

theorem symm (h : m.Reverse n) : n.Reverse m := fun q i => (h i q).symm

theorem unpairedObjects (h : m.Reverse n) : m.unpairedObjects = n.unpairedReferences := by
  have free (q : Fin bs.length) : (∀ i, m.partner i ≠ some q) ↔ n.partner q = none := by
    rw [Option.eq_none_iff_forall_ne_some]
    simp only [ne_eq, h _ q]
  rw [Pairing.unpairedObjects, Pairing.unpairedReferences]
  congr 1
  apply List.filter_congr
  intro q _
  rw [Bool.eq_iff_iff, decide_eq_true_iff, free, Option.isNone_iff_eq_none]

theorem mem_pairs (h : m.Reverse n) {a b : Object} : (a, b) ∈ m.pairs ↔ (b, a) ∈ n.pairs := by
  rw [Pairing.mem_pairs, Pairing.mem_pairs, exists_comm]
  simp only [h _ _, and_comm]

end Reverse

end Pairing

theorem Comparison.Settled.greedy_pairing {objects references : List Object}
    {outcomes : List Outcome} (h : Settled j objects [] references outcomes) :
    h.pairing.Greedy j where
  joins hq := ⟨h.settles_pairing.meet hq, h.settles_pairing.same hq⟩
  first {i q} joins := by
    have partner {i : Fin references.length} {q : Nat}
        (hq : outcomes[i.1]?.bind Outcome.position? = some q) :
        ∃ hlt : q < objects.length, h.pairing.partner i = some ⟨q, hlt⟩ := by
      have became : outcomes[i.1]? = some (h.outcomeAt i) := by simp [outcomeAt]
      rw [became] at hq
      have hlt := h.position_lt (h.outcomeAt_mem i) hq
      exact ⟨hlt, h.partner?_eq_some.2 hq⟩
    rcases h.position_of_joins (List.getElem?_eq_getElem i.2) (List.getElem?_eq_getElem q.2)
      joins with taken | ⟨i', hlt, taker⟩ | ⟨q', hle, found⟩
    · cases taken
    · obtain ⟨_, taker⟩ := partner (i := ⟨i', hlt.trans i.2⟩) taker
      exact .inl ⟨_, hlt, taker⟩
    · obtain ⟨_, found⟩ := partner found
      exact .inr ⟨_, hle, found⟩

/-! ## Findings -/

/-- What one run finds is what another finds, seen from the other side. Only columns that stand for
expressions, which are never missing, are told by one of them alone. -/
structure Findings.Exchanged (f g : Findings) : Prop where
  missing : g.missing = f.unexpected.filter fun o => !standsForExpression o
  unexpected : f.missing = g.unexpected.filter fun o => !standsForExpression o
  changed (a b : Object) (l : Ledger) : ⟨a, b, l⟩ ∈ f.changed ↔ ⟨b, a, l.exchanged⟩ ∈ g.changed
  includeCatalog : f.includeCatalog = g.includeCatalog

variable {f f' g g' : Findings} {A B : Snapshot} {k : Kind}

theorem Findings.Exchanged.symm (h : f.Exchanged g) : g.Exchanged f where
  missing := h.unexpected
  unexpected := h.missing
  changed b a l := by
    rw [h.changed, Ledger.exchanged_exchanged]
  includeCatalog := h.includeCatalog.symm

theorem Findings.exchanged_start (A B : Snapshot) (p : Policy) :
    (start A B p).Exchanged (start B A p) :=
  ⟨rfl, rfl, fun _ _ _ => by simp [start], rfl⟩

theorem Findings.counts_exchanged (h : f.includeCatalog = g.includeCatalog) {a b : Object}
    (hkind : a.kind = b.kind) (l : Ledger) : g.counts b l.exchanged = f.counts a l := by
  simp only [counts, hkind, h, Ledger.isEmpty_exchanged, Ledger.fields_exchanged]

/-- Comparing one more kind both ways keeps findings that are exchanged. -/
theorem Findings.Exchanged.findingsOfKind (h : f.Exchanged g)
    (exchangeable : j.Exchangeable (A.ofKind k) (B.ofKind k))
    (hf : findingsOfKind j A B f k = .ok f') (hg : findingsOfKind j B A g k = .ok g') :
    f'.Exchanged g' := by
  obtain ⟨outcomes, there, rfl⟩ := settled_of_findingsOfKind hf
  obtain ⟨outcomes', back, rfl⟩ := settled_of_findingsOfKind hg
  have reverse := there.greedy_pairing.reverse back.greedy_pairing exchangeable
  refine ⟨?_, ?_, ?_, h.includeCatalog⟩
  · simp only [h.missing, reverse.unpairedObjects, List.filter_append]
  · simp only [h.unexpected, reverse.symm.unpairedObjects, List.filter_append]
  · intro a b l
    simp only [List.mem_append, List.mem_filter, h.changed, Pairing.mem_compared
      there.compared_pairing, Pairing.mem_compared back.compared_pairing, ← reverse.mem_pairs]
    refine or_congr_right ?_
    by_cases paired : (a, b) ∈ there.pairing.pairs
    · obtain ⟨ha, hb⟩ := Pairing.mem_of_mem_pairs paired
      have hkind : a.kind = b.kind := (mem_ofKind.1 ha).2.trans (mem_ofKind.1 hb).2.symm
      rw [exchangeable.differences_iff ha hb, counts_exchanged h.includeCatalog hkind]
    · simp only [paired, false_and]

theorem Findings.Exchanged.foldlM {ks : List Kind} (h : f.Exchanged g)
    (exchangeable : ∀ k ∈ ks, j.Exchangeable (A.ofKind k) (B.ofKind k) ∨
      j.Exchangeable (B.ofKind k) (A.ofKind k))
    (hf : ks.foldlM (Comparison.findingsOfKind j A B) f = .ok f')
    (hg : ks.foldlM (Comparison.findingsOfKind j B A) g = .ok g') : f'.Exchanged g' := by
  induction ks generalizing f g with
  | nil =>
    cases hf
    cases hg
    exact h
  | cons k ks ih =>
    obtain ⟨f₁, hf₁, hf⟩ := Fallible.bind_eq_ok.1 hf
    obtain ⟨g₁, hg₁, hg⟩ := Fallible.bind_eq_ok.1 hg
    have first : f₁.Exchanged g₁ := by
      rcases exchangeable k List.mem_cons_self with there | back
      · exact h.findingsOfKind there hf₁ hg₁
      · exact (h.symm.findingsOfKind back hg₁ hf₁).symm
    exact ih first (fun k hk => exchangeable k (List.mem_cons_of_mem _ hk)) hf hg

/-! ## Documents -/

variable {d : Dialect} {p : Policy}

theorem Rulebook.exchangeable (hp : p.includeCatalog = false) (hk : k ≠ .catalog)
    (hA : ∀ a ∈ A.objects, a.HoldsData) (hB : ∀ b ∈ B.objects, b.HoldsData)
    (nodup : (B.ofKind k).Nodup)
    (unambiguous : ((builtin d).judge d p).Unambiguous (A.ofKind k) (B.ofKind k)) :
    ((builtin d).judge d p).Exchangeable (A.ofKind k) (B.ofKind k) where
  same a ha b hb := by
    have ha : a.kind ≠ .catalog := (mem_ofKind.1 ha).2 ▸ hk
    have hb : b.kind ≠ .catalog := (mem_ofKind.1 hb).2 ▸ hk
    rw [judge_same, judge_same, Identity.same_comm hp ha hb]
  differences a ha b hb := by
    obtain ⟨ha, hakind⟩ := mem_ofKind.1 ha
    obtain ⟨hb, hbkind⟩ := mem_ofKind.1 hb
    exact Differences.differences_exchanged hp (hakind.trans hbkind.symm) (hA a ha) (hB b hb)
  unambiguous := unambiguous
  nodup := nodup

open Rulebook in
/-- Comparing two documents the other way round tells the same. While catalogs neither are compared
nor take part in telling objects apart, and no object of one side is the same as two different
objects of the other, whichever side that is for each kind, what the one run finds unexpected the
other finds missing, columns that stand for expressions apart, and a pair that has changed for the
one has changed for the other, in the same fields and with the values exchanged. -/
theorem compareSnapshots_exchanged {D E : Document} {m n : Nat} (hA : D.resolve m = .ok A)
    (hB : E.resolve n = .ok B) (hp : p.includeCatalog = false) (catalogs : .catalog ∉ p.kinds)
    (unambiguous : ∀ k ∈ p.kinds, ((builtin d).judge d p).Unambiguous (A.ofKind k) (B.ofKind k) ∨
      ((builtin d).judge d p).Unambiguous (B.ofKind k) (A.ofKind k)) :
    ∃ f g, compareSnapshots ((builtin d).judge d p) p A B = .ok f ∧
      compareSnapshots ((builtin d).judge d p) p B A = .ok g ∧
      g.missing = f.unexpected.filter (fun o => !Findings.standsForExpression o) ∧
      f.missing = g.unexpected.filter (fun o => !Findings.standsForExpression o) ∧
      ∀ a b l, ⟨a, b, l⟩ ∈ f.changed ↔ ⟨b, a, l.exchanged⟩ ∈ g.changed := by
  have dataA (a : Object) (ha : a ∈ A.objects) := Document.holdsData_of_mem hA ha
  have dataB (b : Object) (hb : b ∈ B.objects) := Document.holdsData_of_mem hB hb
  obtain ⟨f, there⟩ := exists_compareSnapshots_eq_ok (d := d) (p := p) dataA dataB
  obtain ⟨g, back⟩ := exists_compareSnapshots_eq_ok (d := d) (p := p) dataB dataA
  have exchanged : f.Exchanged g := by
    refine (Findings.exchanged_start A B p).foldlM ?_ there back
    intro k hk
    have hk := mem_orderedKinds.1 hk
    have below : k ≠ .catalog := fun h => catalogs (h ▸ hk)
    refine (unambiguous k hk).imp ?_ ?_
    · exact exchangeable hp below dataA dataB (Document.nodup_ofKind hB k)
    · exact exchangeable hp below dataB dataA (Document.nodup_ofKind hA k)
  exact ⟨f, g, there, back, exchanged.missing, exchanged.unexpected, exchanged.changed⟩

/-- A policy that compares tables and columns. -/
def tablesAndColumns : Policy := { Policy.standard with kinds := [.table, .column] }

/-- A document of some tables, the first with a column `id` and some computed ones. -/
def ordersDocument (tables : List String) (default : Int) (computed : List String) : Document :=
  let column (name : String) (default : Option Json) (computed : Bool) : Document.ColumnEntry :=
    { table := "orders", schema := none, name, type := some "int", nullable := none,
      defaultValue := default, remarks := none, order := none, computed := some computed,
      descending := none, autoIncrement := none, attributes := [] }
  { productName := none
    productVersion := none
    catalogs := []
    schemas := []
    tables := ("orders" :: tables).map fun name => ⟨name, none, none, none, none, []⟩
    columns :=
      column "id" (some (.integer default)) false ::
        computed.map fun name => column name none true
    indexes := []
    primaryKeys := []
    foreignKeys := []
    uniqueConstraints := [] }

theorem compareSnapshots_exchanged_orders :
    ∃ A B f g, (ordersDocument ["audit"] 1 []).resolve 0 = .ok A ∧
      (ordersDocument [] 2 ["total"]).resolve 1 = .ok B ∧
      compareSnapshots ((Rulebook.builtin .postgres).judge .postgres tablesAndColumns)
        tablesAndColumns A B = .ok f ∧
      compareSnapshots ((Rulebook.builtin .postgres).judge .postgres tablesAndColumns)
        tablesAndColumns B A = .ok g ∧
      f.unexpected.map (·.name) = [some "total"] ∧ g.missing = [] ∧
      ∃ a b l, l.fields = [.defaultValue] ∧ ⟨a, b, l⟩ ∈ f.changed ∧
        ⟨b, a, l.exchanged⟩ ∈ g.changed := by
  have hA : (ordersDocument ["audit"] 1 []).resolve 0 = .ok _ := rfl
  have hB : (ordersDocument [] 2 ["total"]).resolve 1 = .ok _ := rfl
  obtain ⟨f, g, there, back, missing, -, changed⟩ := compareSnapshots_exchanged (d := .postgres)
    (p := tablesAndColumns) hA hB rfl (by decide) fun k _ => .inl (Judge.Unambiguous.ofKind (by
      simp only [Judge.Unambiguous, Rulebook.judge_same]
      decide +kernel) k)
  -- what is unexpected there, what of it is not computed, and what has changed
  have told := congrArg (Except.map fun f => (f.unexpected.map (·.name),
    f.unexpected.filter fun o => !Findings.standsForExpression o,
    f.changed.map (·.ledger.fields))) there
  rw [Rulebook.compareSnapshots_eq_scan (by decide +kernel)] at told
  have found : (Except.ok (f.unexpected.map (·.name),
      f.unexpected.filter fun o => !Findings.standsForExpression o,
      f.changed.map (·.ledger.fields)) : Except CompareError _) =
      .ok ([some "total"], [], [[.defaultValue]]) := told.symm.trans (by decide +kernel)
  simp only [Except.ok.injEq, Prod.mk.injEq] at found
  obtain ⟨names, none, ledgers⟩ := found
  obtain ⟨x, one, fields⟩ := List.map_eq_singleton_iff.1 ledgers
  have hx : ⟨x.reference, x.comparison, x.ledger⟩ ∈ f.changed := one ▸ List.mem_cons_self
  exact ⟨_, _, f, g, hA, hB, there, back, names, missing.trans none, _, _, _, fields, hx,
    (changed _ _ _).1 hx⟩

end SchemaDelta

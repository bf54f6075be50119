import SchemaDelta.Proofs.Plan
import SchemaDelta.Proofs.Suppression

/-!
# What suppression leaves out

A policy that suppresses fields finds what the same policy without suppression finds, less the
suppressed entries. No rule that tells objects apart asks what is suppressed, so both pair the
same objects. Their ledgers grow side by side: whatever is entered, left out or taken out again,
the one ledger stays the other without the entries that are not reported.

## Main definitions

* `Policy.reportingAll` — the policy without suppression.
* `Policy.reports` — the fields whose entries stay.
* `Ledger.reportedBy` — a ledger without the other entries.
-/

namespace SchemaDelta

open Comparison Fallible

/-- The same policy, with nothing suppressed. -/
def Policy.reportingAll (p : Policy) : Policy := { p with suppressed := [] }

/-- Whether entries of a field stay. That only one of two columns counts on its own goes by the
field of what is counted. -/
def Policy.reports (p : Policy) (k : Kind) (f : Field) : Bool :=
  if k = .column ∧ f = .autoIncrement then !p.isSuppressed .column .autoIncrementInformation
  else !p.isSuppressed k f

/-- The ledger without the entries that are not reported. -/
def Ledger.reportedBy (p : Policy) (k : Kind) (l : Ledger) : Ledger :=
  ⟨p.suppressedFields k, l.entries.filter fun e => p.reports k e.1⟩

variable {d : Dialect} {p : Policy} {k : Kind} {a b : Object} {l m : Ledger} {f : Field}
  {test : Criterion}

theorem Policy.reports_of_ne (h : ¬(k = .column ∧ f = .autoIncrement)) :
    p.reports k f = !p.isSuppressed k f := if_neg h

/-! ## Identity -/

namespace Identity

theorem columnLists_reportingAll (as bs : List Column) :
    columnLists d p.reportingAll as bs = columnLists d p as bs := by
  induction as generalizing bs with
  | nil => rfl
  | cons a as ih =>
    cases bs with
    | nil => rfl
    | cons b bs =>
      rw [columnLists, columnLists, ih]
      rfl

theorem groupsAlike_reportingAll (a b : Rule.ColumnGroup) :
    groupsAlike d p.reportingAll a b = groupsAlike d p a b := by
  unfold groupsAlike groupsOnTable
  rw [columnLists_reportingAll]
  rfl

/-- What is suppressed has no say in what is the same. -/
theorem same_reportingAll (a b : Object) : same d p.reportingAll a b = same d p a b := by
  have alike : alike d p.reportingAll a b = alike d p a b := by
    cases a <;> cases b <;> first | rfl | exact groupsAlike_reportingAll ..
  rw [same, same, alike]

end Identity

theorem Rulebook.judge_blind_reportingAll :
    ((builtin d).judge d p.reportingAll).blind = ((builtin d).judge d p).blind := by
  have left (q : Policy) (b : Object) : ((builtin d).judge d q).same none (some b) = .ok false :=
    same_judgeAt_succ (n := 5) rfl
  have right (q : Policy) (a : Object) : ((builtin d).judge d q).same (some a) none = .ok false :=
    same_judgeAt_succ (n := 5) rfl
  have same : ((builtin d).judge d p.reportingAll).same = ((builtin d).judge d p).same := by
    funext a b
    cases a with
    | none =>
      cases b with
      | none => rfl
      | some b => rw [left, left]
    | some a =>
      cases b with
      | none => rw [right, right]
      | some b => rw [judge_same, judge_same, Identity.same_reportingAll]
  have keys : ((builtin d).judge d p.reportingAll).keys = ((builtin d).judge d p).keys := by
    funext o
    rw [judge_keys, judge_keys]
  unfold Judge.blind
  rw [same, keys]

/-! ## Ledgers -/

namespace Ledger

theorem reportedBy_new : (new p.reportingAll k).reportedBy p k = new p k := rfl

theorem compare_of_suppressed (h : f ∈ l.suppressed) : l.compare f a b test = .ok l := by
  unfold compare change?
  rw [if_pos (List.contains_iff_mem.2 h)]
  rfl

theorem compare_of_differ (h : f ∉ l.suppressed) (differ : Differ a b f test) :
    l.compare f a b test =
      .ok { l with entries := Keyed.insert f (changeOf a b f) l.entries } := by
  unfold Differ agree? at differ
  unfold compare change?
  rw [if_neg fun hf => h (List.contains_iff_mem.1 hf)]
  dsimp only
  rw [differ]
  rfl

theorem withdraw_reportedBy (l : Ledger) (f : Field) :
    (l.reportedBy p k).withdraw f = (l.withdraw f).reportedBy p k := by
  simp only [reportedBy, withdraw, List.filter_filter, Bool.and_comm]

theorem enter_reportedBy {r c : Option Value} {message : Option String}
    (hf : p.reports k f = true) (hl : Keyed.Sorted l.entries) :
    (l.reportedBy p k).enter f r c message = (l.enter f r c message).reportedBy p k := by
  rw [enter, reportedBy, reportedBy, enter, Keyed.filter_insert_of_pos _ hf hl]

theorem reportedBy_enter {r c : Option Value} {message : Option String}
    (hf : p.reports k f = false) :
    (l.enter f r c message).reportedBy p k = l.reportedBy p k := by
  rw [reportedBy, reportedBy, enter, Keyed.filter_insert_of_neg _ _ hf]

/-- Comparing a field keeps both ledgers side by side. -/
theorem compare_reportedBy (hl : Keyed.Sorted l.entries) (free : l.suppressed = [])
    (hf : p.reports k f = !p.isSuppressed k f) :
    Follows (reportedBy p k) (l.compare f a b test) ((l.reportedBy p k).compare f a b test) := by
  intro m hm
  have suppressed : f ∈ (l.reportedBy p k).suppressed ↔ p.isSuppressed k f = true :=
    Differences.mem_suppressedFields
  rcases compare_eq_ok hm with ⟨rfl, left | agree⟩ | ⟨rfl, -, differ⟩
  · rw [free] at left
    cases left
  · exact compare_of_agree agree
  · cases hs : p.isSuppressed k f with
    | true =>
      rw [hs, Bool.not_true] at hf
      rw [compare_of_suppressed (suppressed.2 hs), reportedBy, reportedBy,
        Keyed.filter_insert_of_neg _ _ hf]
    | false =>
      rw [hs, Bool.not_false] at hf
      have reported : f ∉ (l.reportedBy p k).suppressed := by
        rw [suppressed, hs]
        exact Bool.false_ne_true
      rw [compare_of_differ reported differ, reportedBy, reportedBy,
        Keyed.filter_insert_of_pos _ hf hl]

theorem compareAll_reportedBy {tests : List (Field × Criterion)} (hl : Keyed.Sorted l.entries)
    (free : l.suppressed = [])
    (hf : ∀ t ∈ tests, p.reports k t.1 = !p.isSuppressed k t.1) :
    Follows (reportedBy p k) (l.compareAll a b tests)
      ((l.reportedBy p k).compareAll a b tests) := by
  induction tests generalizing l with
  | nil => exact .pure l
  | cons t tests ih =>
    obtain ⟨ht, htests⟩ := List.forall_mem_cons.1 hf
    rw [compareAll_cons, compareAll_cons]
    refine (compare_reportedBy hl free ht).bind ?_
    intro m hm
    rcases compare_eq_ok hm with ⟨rfl, -⟩ | ⟨rfl, -⟩
    · exact ih hl free htests
    · exact ih (Keyed.sorted_insert _ _ hl) free htests

end Ledger

/-! ## Differences -/

namespace Differences

/-- Which fields are compared, and how, does not depend on what is suppressed. -/
theorem tests_reportingAll (a b : Object) : tests d p.reportingAll a b = tests d p a b := by
  have standard : (fun a b => Except.ok (ε := CompareError) (Identity.same d p.reportingAll a b)) =
      fun a b => .ok (Identity.same d p a b) := by
    funext a b
    rw [Identity.same_reportingAll]
  have own (k : Kind) : ownCriteria d p.reportingAll k = ownCriteria d p k := by
    cases k <;> try rfl
    simp only [ownCriteria, plain, standard]
  have criterion (v w : Option Value) :
      Rule.Generic.criterion (Rulebook.scopeAt d p.reportingAll 5) v w =
        Rule.Generic.criterion (Rulebook.scopeAt d p 5) v w := by
    simp only [Rule.Generic.criterion, linked_same, Rulebook.scopeAt_dialect, standard]
  have generic (exclude : List Field) :
      genericTests (Rulebook.scopeAt d p.reportingAll 5) a b exclude =
        genericTests (Rulebook.scopeAt d p 5) a b exclude := by
    simp only [genericTests, criterion]
  unfold tests
  rw [own]
  cases a.kind <;> simp only [generic] <;> rfl

/-- That only one of two columns counts on its own is not compared. -/
theorem reports_of_mem_tests (h : (f, test) ∈ tests d p a b) (hkind : a.kind = b.kind) :
    p.reports a.kind f = !p.isSuppressed a.kind f := by
  refine Policy.reports_of_ne ?_
  rintro ⟨column, rfl⟩
  rcases of_mem_tests h with ⟨-, -, generic⟩ | own
  · obtain ⟨⟨has, -⟩, -⟩ := mem_genericTests.1 generic
    rw [mem_fields_iff, mem_fields_iff, ← hkind, column] at has
    rcases has with (known | ⟨_, -, custom⟩) | (known | ⟨_, -, custom⟩)
    · exact absurd known (by decide)
    · cases custom
    · exact absurd known (by decide)
    · cases custom
  · rw [column] at own
    simp [ownCriteria] at own

/-- What the rules do in the end keeps both ledgers side by side. -/
theorem adjust_reportedBy (hl : Keyed.Sorted l.entries) (hkind : a.kind = b.kind) :
    adjust d p a b (l.reportedBy p a.kind) =
      (adjust d p.reportingAll a b l).reportedBy p a.kind := by
  cases a <;> cases b <;> cases hkind <;> try rfl
  next x y =>
    simp only [adjust, adjustOwn]
    split <;> simp only [Ledger.withdraw_reportedBy]
  next x y =>
    have counting : p.reports .column .autoIncrement =
        !p.isSuppressed .column .autoIncrementInformation := rfl
    have own : adjustOwn p (.column x) (.column y) (l.reportedBy p .column) =
        (adjustOwn p.reportingAll (.column x) (.column y) l).reportedBy p .column := by
      have all : p.reportingAll.isSuppressed .column .autoIncrementInformation = false := rfl
      simp only [adjustOwn, all, Bool.not_false, Bool.and_true, ← counting]
      cases x.countsOnItsOwn != y.countsOnItsOwn with
      | false => rfl
      | true =>
        cases hf : p.reports .column .autoIncrement with
        | true => exact Ledger.enter_reportedBy hf hl
        | false => exact (Ledger.reportedBy_enter hf).symm
    simp only [adjust, Object.kind, own]
    split
    · exact Ledger.withdraw_reportedBy ..
    · rfl

/-- Two objects differ in what they differ in without suppression, less what is not reported. -/
theorem differences_reportedBy (hkind : a.kind = b.kind) :
    Follows (Ledger.reportedBy p a.kind)
      (((Rulebook.builtin d).judge d p.reportingAll).differences (some a) (some b) [])
      (((Rulebook.builtin d).judge d p).differences (some a) (some b) []) := by
  intro l hl
  rw [differences_eq hkind, tests_reportingAll] at hl
  obtain ⟨m, hm, rfl⟩ := map_eq_ok.1 hl
  have start := Ledger.records_new (p := p.reportingAll) (k := a.kind) (a := a) (b := b)
  have compared := Ledger.compareAll_reportedBy (p := p) (k := a.kind) start.sorted rfl
    (fun t ht => reports_of_mem_tests ht hkind) m hm
  rw [Ledger.reportedBy_new] at compared
  rw [differences_eq hkind, compared, map_ok, adjust_reportedBy (start.compareAll hm).sorted hkind]

/-- Containers differ in their names only. -/
theorem name_of_container (hkind : a.kind = b.kind) (hk : a.kind = .catalog ∨ a.kind = .schema)
    (h : ((Rulebook.builtin d).judge d p).differences (some a) (some b) [] = .ok l) :
    ∀ e ∈ l.entries, e.1 = .name := by
  rw [differences_eq hkind] at h
  obtain ⟨m, hm, rfl⟩ := map_eq_ok.1 h
  intro e he
  rcases of_mem_entries_adjust he with he | ⟨-, column, -⟩
  · have start := Ledger.records_new (p := p) (k := a.kind) (a := a) (b := b)
    have mem : e.1 ∈ m.fields := Ledger.mem_fields.2 ⟨e.2, he⟩
    rcases (Ledger.mem_fields_compareAll start.sorted hm).1 mem with none | ⟨-, test, ht, -⟩
    · cases none
    · rcases of_mem_tests ht with ⟨hcatalog, hschema, -⟩ | own
      · rcases hk with hk | hk
        · exact absurd hk hcatalog
        · exact absurd hk hschema
      · rcases hk with hk | hk
        · rw [hk] at own
          simp only [ownCriteria, List.mem_singleton] at own
          exact congrArg Prod.fst own
        · rw [hk] at own
          simp only [ownCriteria, List.mem_singleton] at own
          exact congrArg Prod.fst own
  · rw [column] at hk
    rcases hk with hk | hk <;> cases hk

end Differences

/-! ## Runs -/

/-- The pair with the entries that are reported. -/
def ChangedPair.reportedBy (p : Policy) (x : ChangedPair) : ChangedPair :=
  { x with ledger := x.ledger.reportedBy p x.reference.kind }

/-- The findings with the entries that are reported, and without the pairs that have none. -/
def Findings.reportedBy (p : Policy) (f : Findings) : Findings :=
  { f with changed := (f.changed.map (·.reportedBy p)).filter fun x => !x.ledger.isEmpty }

variable {R C : Snapshot} {g : Findings}

namespace Pairing

variable {m : Pairing (R.ofKind k) (C.ofKind k)} {all : List ChangedPair}

theorem compared_reportedBy (m : Pairing (R.ofKind k) (C.ofKind k)) :
    Follows (List.map (ChangedPair.reportedBy p))
      (m.compared ((Rulebook.builtin d).judge d p.reportingAll))
      (m.compared ((Rulebook.builtin d).judge d p)) := by
  intro all hall
  have kinds : ∀ x ∈ m.pairs, x.1.kind = x.2.kind := by
    intro x hx
    obtain ⟨hr, hc⟩ := mem_of_mem_pairs hx
    exact (mem_ofKind.1 hr).2.trans (mem_ofKind.1 hc).2.symm
  rw [compared, mapM_eq_ok, List.forall₂_map_right_iff]
  refine ((List.forall₂_and_left _ _).2 ⟨kinds, mapM_eq_ok.1 hall⟩).imp ?_
  rintro x y ⟨hkind, step⟩
  obtain ⟨l, hl, step⟩ := bind_eq_ok.1 step
  obtain rfl := pure_eq_ok.1 step
  rw [Differences.differences_reportedBy hkind l hl]
  rfl

/-- A pair counts when it counts without suppression and something of it is reported. -/
theorem counts_reportedBy
    (hall : m.compared ((Rulebook.builtin d).judge d p.reportingAll) = .ok all)
    {x : ChangedPair} (hx : x ∈ all) :
    g.counts x.reference (x.reportedBy p).ledger =
      (g.counts x.reference x.ledger && !(x.reportedBy p).ledger.isEmpty) := by
  obtain ⟨pair, hl⟩ := (mem_compared hall).1 hx
  obtain ⟨hr, hc⟩ := mem_of_mem_pairs pair
  have hkind : x.reference.kind = x.comparison.kind :=
    (mem_ofKind.1 hr).2.trans (mem_ofKind.1 hc).2.symm
  have empty (h : x.ledger.isEmpty = true) : (x.reportedBy p).ledger.isEmpty = true := by
    rw [Ledger.isEmpty, List.isEmpty_iff] at h
    simp [ChangedPair.reportedBy, Ledger.reportedBy, Ledger.isEmpty, h]
  by_cases container : x.reference.kind = .catalog ∨ x.reference.kind = .schema
  · -- nothing but the name is ever entered, whether or not some of it is left out
    have names := Differences.name_of_container hkind container hl
    have all : (x.ledger.fields.all fun f => f == .name) = true := by
      simpa [Ledger.fields] using names
    have all' : ((x.reportedBy p).ledger.fields.all fun f => f == .name) = true := by
      simp only [Ledger.fields, List.all_map, List.all_eq_true]
      intro e he
      exact beq_iff_eq.2 (names e (List.mem_filter.1 he).1)
    unfold Findings.counts
    rw [all, all']
    grind
  · have plain : (x.reference.kind == .catalog || x.reference.kind == .schema) = false := by
      simpa using container
    unfold Findings.counts
    rw [plain]
    grind

theorem found_reportedBy
    (hall : m.compared ((Rulebook.builtin d).judge d p.reportingAll) = .ok all) :
    m.found (g.reportedBy p) (all.map (·.reportedBy p)) = (m.found g all).reportedBy p := by
  have changed : (all.map (·.reportedBy p)).filter (fun x => g.counts x.reference x.ledger) =
      ((all.filter fun x => g.counts x.reference x.ledger).map (·.reportedBy p)).filter
        fun x => !x.ledger.isEmpty := by
    rw [List.filter_map, List.filter_map, List.filter_filter]
    congr 1
    refine List.filter_congr ?_
    intro x hx
    rw [Bool.and_comm]
    exact counts_reportedBy hall hx
  unfold found Findings.reportedBy
  rw [List.map_append, List.filter_append, ← changed]
  rfl

end Pairing

theorem findingsOfKind_reportedBy (g : Findings) (k : Kind) :
    Follows (Findings.reportedBy p)
      (findingsOfKind ((Rulebook.builtin d).judge d p.reportingAll) R C g k)
      (findingsOfKind ((Rulebook.builtin d).judge d p) R C (g.reportedBy p) k) := by
  have certain := Rulebook.judge_certain (d := d) (p := p) (R.ofKind k) (C.ofKind k)
  obtain ⟨outcomes, settled⟩ := exists_settled_blind certain
  rw [settled.leads_pairing certain Rulebook.judge_blind_reportingAll,
    settled.leads_pairing certain rfl]
  intro h hh
  obtain ⟨all, hall, rfl⟩ := map_eq_ok.1 hh
  rw [Pairing.compared_reportedBy _ all hall, map_ok, Pairing.found_reportedBy hall]

/-- Suppression only leaves out. For documents both runs end with findings, the one under a policy
that suppresses fields and the one under the same policy without. They miss the same objects and
find the same ones unexpected, and the pairs that the first tells changed are those that the
second does, in the same order, each with the entries that are reported, and without the pairs
that none are left of. -/
theorem compareSnapshots_reportedBy {D E : Document} {n n' : Nat} (hR : D.resolve n = .ok R)
    (hC : E.resolve n' = .ok C) (d : Dialect) (p : Policy) :
    ∃ f g, compareSnapshots ((Rulebook.builtin d).judge d p) p R C = .ok f ∧
      compareSnapshots ((Rulebook.builtin d).judge d p.reportingAll) p.reportingAll R C = .ok g ∧
      f.missing = g.missing ∧ f.unexpected = g.unexpected ∧
      f.changed = (g.changed.map (·.reportedBy p)).filter fun x => !x.ledger.isEmpty := by
  obtain ⟨g, hg⟩ := exists_compareSnapshots_eq_ok (d := d) (p := p.reportingAll)
    (fun r hr => Document.holdsData_of_mem hR hr) fun c hc => Document.holdsData_of_mem hC hc
  have run : Follows (Findings.reportedBy p)
      (compareSnapshots ((Rulebook.builtin d).judge d p.reportingAll) p.reportingAll R C)
      (compareSnapshots ((Rulebook.builtin d).judge d p) p R C) :=
    .foldlM (fun g k _ => findingsOfKind_reportedBy g k) _
  exact ⟨g.reportedBy p, g, run g hg, hg, rfl, rfl, rfl⟩

/-- A policy that suppresses what a column counts by, under a name under which nothing is told, and
a custom attribute. -/
def countsSuppressed : Policy :=
  { Policy.standard with
    suppressed := [(.column, .autoIncrementInformation), (.column, .custom "nullable")] }

theorem changed_idColumn :
    ∃ R C, (Report.idColumn (some ⟨none, none⟩) "yes").resolve 0 = .ok R ∧
      (Report.idColumn none "no").resolve 1 = .ok C ∧
      (compareSnapshots ((Rulebook.builtin .postgres).judge .postgres countsSuppressed.reportingAll)
        countsSuppressed.reportingAll R C).map (fun g => (g.changed.map (·.ledger.fields),
          ((g.changed.map (·.reportedBy countsSuppressed)).filter fun x =>
            !x.ledger.isEmpty).length)) =
        .ok ([[.autoIncrement, .custom "nullable"]], 0) := by
  refine ⟨_, _, rfl, rfl, ?_⟩
  rw [Rulebook.compareSnapshots_eq_scan (by decide +kernel)]
  decide +kernel

theorem compareSnapshots_reportedBy_idColumn :
    ∃ R C f g, (Report.idColumn (some ⟨none, none⟩) "yes").resolve 0 = .ok R ∧
      (Report.idColumn none "no").resolve 1 = .ok C ∧
      compareSnapshots ((Rulebook.builtin .postgres).judge .postgres countsSuppressed)
        countsSuppressed R C = .ok f ∧
      compareSnapshots
        ((Rulebook.builtin .postgres).judge .postgres countsSuppressed.reportingAll)
        countsSuppressed.reportingAll R C = .ok g ∧
      g.changed.map (·.ledger.fields) = [[.autoIncrement, .custom "nullable"]] ∧
      f.changed = [] := by
  obtain ⟨R, C, hR, hC, told⟩ := changed_idColumn
  obtain ⟨f, g, hf, hg, -, -, changed⟩ :=
    compareSnapshots_reportedBy hR hC .postgres countsSuppressed
  rw [hg, map_ok, Except.ok.injEq, Prod.mk.injEq, ← changed, List.length_eq_zero_iff] at told
  exact ⟨R, C, f, g, hR, hC, hf, hg, told⟩

end SchemaDelta

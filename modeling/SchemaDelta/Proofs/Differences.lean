import SchemaDelta.Proofs.Identity
import SchemaDelta.Proofs.Ledger

/-!
# Differences, field by field

A chain of rules finds differences in turns: the rule of a kind sets some fields aside,
leaves all others to the generic rule, compares a few fields by criteria of its own, and
may take differences out again. What comes of it is one flat ledger. Every field of a
pair either is reported in no case or has one criterion, and the ledger holds exactly
the reportable fields whose values do not agree by theirs.

## Main definitions

* `Differences.reportable` — the fields that two objects can differ in.
* `Differences.criterionOf` — the criterion of a field.
* `Differences.tests` — the fields that are compared, each with its criterion.
* `Differences.Own` — the criteria that kinds have of their own.
-/

namespace SchemaDelta

namespace Differences

section

variable (d : Dialect) (p : Policy)

/-! ## What is compared, and how -/

/-- Values agree by content, numbers by value, and objects when they are the same. -/
def plain : Criterion := Criterion.standard fun a b => .ok (Identity.same d p a b)

/-- The criterion that follows from two values, by the first of them that is set. -/
def byValues (reference comparison : Option Value) : Criterion :=
  match reference.or comparison with
  | some (.object o) => Criterion.byName o.kind d
  | some (.dataType _) => Criterion.dataType
  | some (.autoIncrement _) => Criterion.byText false
  | _ => plain d p

/-- The fields for which a kind has criteria of its own. -/
def ownCriteria : Kind → List (Field × Criterion)
  | .catalog => [(.name, .byName .catalog d)]
  | .schema => [(.name, .byName .schema d)]
  | .table => [(.name, .byName .table d)]
  | .column => [(.name, .byName .column d), (.type, .byName .column d)]
  | .index => [(.columns, .columnNames)]
  | .primaryKey => [(.columns, .columnNames)]
  | .foreignKey =>
    [(.foreignKeyColumns, .byName .column d), (.primaryKeyColumns, .byName .column d),
     (.foreignKeyTable, .byName .table d), (.primaryKeyTable, .byName .table d)]
  | .uniqueConstraint => [(.columns, .columnNames), (.backingIndex, plain d p)]

/-- The criterion by which two objects are compared in a field. -/
def criterionOf (a b : Object) (f : Field) : Criterion :=
  ((ownCriteria d p a.kind).lookup f).getD (byValues d p (a.get? f) (b.get? f))

/-- The fields in which two objects do not differ, whatever their values are. -/
def unreported : Object → Object → List Field
  | .table x, .table y =>
    [.schema, .defaultTablespace] ++
      if x.inDefaultTablespace && y.inDefaultTablespace then [.tablespace] else []
  | .column x, .column y =>
    [.autoIncrementInformation] ++ (if p.columnOrder then [] else [.order]) ++
      if d.family = .postgres ∧ Rule.Column.serialColumns x y then [.type] else []
  | .index _, .index _ => [.name, .schema]
  | .primaryKey _, .primaryKey _ => [.name, .backingIndex]
  | .foreignKey _, .foreignKey _ => [.name, .backingIndex]
  | .uniqueConstraint _, .uniqueConstraint _ => [.name, .schema]
  | _, _ => []

/-- The fields that two objects of one kind can differ in; a container only in its name. -/
def reportable (a b : Object) : List Field :=
  match a.kind with
  | .catalog | .schema => [.name]
  | _ => (a.fields ++ b.fields).filter fun f => f ∉ unreported d p a b

/-! ## The flat ledger -/

/-- The fields that the rule of a kind sets aside before the generic rule. -/
def setAside : Kind → List Field
  | .catalog | .schema => []
  | .table => [.name, .schema]
  | .column => Rule.Column.handled p
  | .index => [.name, .columns]
  | .primaryKey => [.name, .backingIndex, .columns]
  | .foreignKey => Rule.ForeignKey.handled
  | .uniqueConstraint => [.name, .columns, .backingIndex]

/-- The tests of the generic rule. -/
def genericTests (s : Scope) (a b : Object) (exclude : List Field) : List (Field × Criterion) :=
  (Rule.Generic.comparedFields a b exclude).map fun f =>
    (f, Rule.Generic.criterion s (a.get? f) (b.get? f))

/-- The tests that the chain of a kind makes. -/
def tests (a b : Object) : List (Field × Criterion) :=
  (match a.kind with
    | .catalog | .schema => []
    | k => genericTests (Rulebook.scopeAt d p 5) a b (setAside p k)) ++ ownCriteria d p a.kind

/-- What the rule of a kind does to a ledger in the end. -/
def adjustOwn : Object → Object → Ledger → Ledger
  | .table x, .table y => fun l =>
    (if x.inDefaultTablespace && y.inDefaultTablespace then l.withdraw .tablespace else l).withdraw
      .defaultTablespace
  | .column x, .column y => fun l =>
    if x.countsOnItsOwn != y.countsOnItsOwn &&
        !p.isSuppressed .column .autoIncrementInformation then
      l.enter .autoIncrement (some (.bool x.countsOnItsOwn)) (some (.bool y.countsOnItsOwn)) none
    else l
  | _, _ => id

/-- What all rules of a kind do to a ledger in the end. -/
def adjust (a b : Object) (l : Ledger) : Ledger :=
  match a, b with
  | .column x, .column y =>
    if d.family = .postgres ∧ Rule.Column.serialColumns x y then (adjustOwn p a b l).withdraw .type
    else adjustOwn p a b l
  | _, _ => adjustOwn p a b l

end

variable {d : Dialect} {p : Policy} {a b : Object} {l : Ledger} {f : Field} {test : Criterion}

theorem generic_differences (s : Scope) (exclude : List Field) :
    Rule.Generic.differences s a b exclude =
      (Ledger.new s.policy a.kind).compareAll a b (genericTests s a b exclude) := by
  rw [Ledger.compareAll, genericTests, List.foldlM_map]
  rfl

theorem rest_differences (n : Nat) (exclude : List Field) :
    (Rulebook.scopeAt d p n).rest.differences (some a) (some b) exclude =
      (Ledger.new p a.kind).compareAll a b (genericTests (Rulebook.scopeAt d p n) a b exclude) :=
  generic_differences ⟨d, p, (Rulebook.builtin d).judgeAt d p n, _⟩ exclude

theorem linked_same (x y : Object) :
    (Rulebook.scopeAt d p 5).linked.same (some x) (some y) = .ok (Identity.same d p x y) :=
  Rulebook.same_judgeAt (n := 0) x y

/-- The rule of a kind makes the tests of one list, and adjusts what they leave. -/
theorem ownRule_differences (hkind : a.kind = b.kind) :
    (Rulebook.ownRule a.kind).differences (Rulebook.scopeAt d p 5) a b [] =
      adjustOwn p a b <$> (Ledger.new p a.kind).compareAll a b (tests d p a b) := by
  cases a <;> cases b <;> cases hkind <;>
    simp only [Object.kind, Rulebook.ownRule, Rule.catalog, Rule.Catalog.differences, Rule.schema,
      Rule.Schema.differences, Rule.table, Rule.Table.differences, Rule.column,
      Rule.Column.differences, Rule.index, Rule.Index.differences, Rule.primaryKey,
      Rule.PrimaryKey.differences, Rule.foreignKey, Rule.ForeignKey.differences,
      Rule.uniqueConstraint, Rule.UniqueConstraint.differences, Rule.expectBoth, Rule.expect,
      Object.catalog?, Object.schema?, Object.table?, Object.column?, Object.index?,
      Object.primaryKey?, Object.foreignKey?, Object.uniqueConstraint?] <;>
    simp [Object.kind, tests, setAside, ownCriteria, adjustOwn, plain, rest_differences,
      linked_same, Rulebook.scopeAt_policy, Ledger.compareAll_append, Ledger.compareAll_cons,
      Ledger.compareAll_nil]
  -- a counting column: what is entered last depends on the columns, not on what was found
  simp only [← apply_ite pure, bind_pure_comp]

theorem chain_differences (linked : Judge) (r : Rule) (rest : List Rule) (exclude : List Field) :
    (chain d p linked (r :: rest)).differences (some a) (some b) exclude =
      r.differences ⟨d, p, linked, chain d p linked rest⟩ a b exclude := rfl

/-- The judge asks a kind's own rule, unless a rule refines it. -/
theorem judge_differences (h : ¬(a.kind = .column ∧ d.family = .postgres)) (exclude : List Field) :
    ((Rulebook.builtin d).judge d p).differences (some a) (some b) exclude =
      (Rulebook.ownRule a.kind).differences (Rulebook.scopeAt d p 5) a b exclude := by
  change (chain d p _ ((Rulebook.builtin d).rules a.kind)).differences _ _ _ = _
  rw [Rulebook.rules_builtin, Rulebook.refinements, if_neg h, List.nil_append, chain_differences]
  rfl

/-- In Postgres the types of serial columns are taken out of what their rule finds. -/
theorem judge_differences_column (hd : d.family = .postgres) (x y : Column)
    (exclude : List Field) :
    ((Rulebook.builtin d).judge d p).differences (some (.column x)) (some (.column y)) exclude =
      (fun l => if Rule.Column.serialColumns x y then l.withdraw .type else l) <$>
        (Rulebook.ownRule .column).differences (Rulebook.scopeAt d p 5) (.column x) (.column y)
          exclude := by
  change (chain d p _ ((Rulebook.builtin d).rules .column)).differences _ _ _ = _
  rw [Rulebook.rules_builtin, Rulebook.refinements, if_pos ⟨rfl, hd⟩, List.singleton_append,
    chain_differences, Rulebook.scopeAt]
  simp only [Rule.postgresColumn, Rule.PostgresColumn.differences, Rule.expectBoth, Rule.expect,
    Object.column?, Fallible.ok_bind, Fallible.pure_eq]
  rw [chain_differences, map_eq_pure_bind]
  rfl

theorem adjust_column (hd : d.family = .postgres) (x y : Column) :
    adjust d p (.column x) (.column y) =
      (fun l => if Rule.Column.serialColumns x y then l.withdraw .type else l) ∘
        adjustOwn p (.column x) (.column y) := by
  funext l
  simp [adjust, hd]

theorem adjust_eq_adjustOwn (h : ¬(a.kind = .column ∧ d.family = .postgres)) :
    adjust d p a b = adjustOwn p a b := by
  funext l
  unfold adjust
  split
  · next x y => rw [if_neg fun serial => h ⟨rfl, serial.1⟩]
  · rfl

/-- The differences of two objects of one kind are those of one list of tests, adjusted. -/
theorem differences_eq (hkind : a.kind = b.kind) :
    ((Rulebook.builtin d).judge d p).differences (some a) (some b) [] =
      ((Ledger.new p a.kind).compareAll a b (tests d p a b)).map (adjust d p a b) := by
  change _ = adjust d p a b <$> _
  have own := ownRule_differences (d := d) (p := p) hkind
  by_cases h : a.kind = .column ∧ d.family = .postgres
  · obtain ⟨hcolumn, hd⟩ := h
    cases a <;> cases hcolumn
    cases b <;> cases hkind
    next x y =>
    rw [judge_differences_column hd, adjust_column hd, comp_map]
    exact congrArg _ own
  · rw [judge_differences h, own, adjust_eq_adjustOwn h]

/-! ## Criteria -/

theorem pairwise_standard (same : Object → Object → Except CompareError Bool) (vs ws : List Value) :
    Criterion.pairwise (Criterion.standard same) vs ws = Criterion.standardItems same vs ws := by
  induction vs generalizing ws with
  | nil => rfl
  | cons v vs ih =>
    cases ws with
    | nil => rfl
    | cons w ws => simp only [Criterion.pairwise, Criterion.standardItems, ih]

/-- Comparing lists item by item is comparing them as values. -/
theorem ordered_standard (same : Object → Object → Except CompareError Bool) (vs ws : List Value) :
    Criterion.ordered (Criterion.standard same) (.list vs) (.list ws) =
      Criterion.standard same (.list vs) (.list ws) := by
  simp only [Criterion.ordered, Criterion.items, Fallible.ok_bind, pairwise_standard,
    Criterion.standard, Fallible.pure_eq]

/-- The generic rule compares a field by the criterion that follows from its values. -/
theorem agree?_generic (f : Field) :
    Ledger.agree? a b f (Rule.Generic.criterion (Rulebook.scopeAt d p 5) (a.get? f) (b.get? f)) =
      Ledger.agree? a b f (byValues d p (a.get? f) (b.get? f)) := by
  simp only [Rule.Generic.criterion, linked_same, Rulebook.scopeAt_dialect, byValues, plain]
  cases hr : a.get? f with
  | none =>
    cases b.get? f with
    | none => rfl
    | some w => cases w <;> rfl
  | some v =>
    cases hc : b.get? f with
    | none => cases v <;> rfl
    | some w =>
      cases v <;> cases w <;> try rfl
      next vs ws =>
        rw [Ledger.agree?, Ledger.agree?, Ledger.facing_of_isList_eq hr hc rfl]
        exact ordered_standard _ vs ws

theorem lookup_ownCriteria {k : Kind} (h : (f, test) ∈ ownCriteria d p k) :
    (ownCriteria d p k).lookup f = some test := by
  cases k <;> simp [ownCriteria] at h ⊢ <;> grind

theorem mem_of_lookup_ownCriteria {k : Kind} (h : (ownCriteria d p k).lookup f = some test) :
    (f, test) ∈ ownCriteria d p k := by
  obtain ⟨before, after, split, -⟩ := List.lookup_eq_some_iff.1 h
  simp [split]

/-- The criteria that kinds have of their own: column lists by the names of columns, the index
behind a unique constraint by content, and all else by name. -/
inductive Own (d : Dialect) (p : Policy) : Field → Criterion → Prop where
  | columns : Own d p .columns Criterion.columnNames
  | backingIndex : Own d p .backingIndex (plain d p)
  | named (f : Field) (k : Kind) : Own d p f (Criterion.byName k d)

theorem own_of_mem {k : Kind} (h : (f, test) ∈ ownCriteria d p k) : Own d p f test := by
  cases k <;> simp only [ownCriteria, List.mem_cons, List.not_mem_nil, or_false,
    Prod.mk.injEq] at h
  case index | primaryKey =>
    obtain ⟨rfl, rfl⟩ := h
    exact .columns
  case uniqueConstraint =>
    rcases h with ⟨rfl, rfl⟩ | ⟨rfl, rfl⟩
    · exact .columns
    · exact .backingIndex
  all_goals
    have named : ∃ k, test = Criterion.byName k d := by grind
    obtain ⟨k, rfl⟩ := named
    exact .named f k

theorem mem_setAside_of_ownCriteria {k : Kind} (h : (f, test) ∈ ownCriteria d p k)
    (hcatalog : k ≠ .catalog) (hschema : k ≠ .schema) : f ∈ setAside p k := by
  cases k <;> simp_all [ownCriteria, setAside, Rule.Column.handled, Rule.ForeignKey.handled] <;>
    grind

theorem mem_genericTests {s : Scope} {exclude : List Field} :
    (f, test) ∈ genericTests s a b exclude ↔
      ((f ∈ a.fields ∨ f ∈ b.fields) ∧ f ∉ exclude ∧ f ≠ .schema ∧ f ≠ .catalog) ∧
        Rule.Generic.criterion s (a.get? f) (b.get? f) = test := by
  simp only [genericTests, Rule.Generic.comparedFields, List.mem_map, List.mem_filter,
    Keyed.mem_keySet, List.mem_append, Prod.mk.injEq, and_assoc]
  simp [and_assoc]

/-- A test is the generic rule's, on a field that is not set aside, or the kind's own. -/
theorem of_mem_tests (h : (f, test) ∈ tests d p a b) :
    (a.kind ≠ .catalog ∧ a.kind ≠ .schema ∧
      (f, test) ∈ genericTests (Rulebook.scopeAt d p 5) a b (setAside p a.kind)) ∨
      (f, test) ∈ ownCriteria d p a.kind := by
  refine (List.mem_append.1 h).imp_left fun generic => ?_
  cases hk : a.kind <;> simp only [hk, List.not_mem_nil] at generic <;>
    exact ⟨nofun, nofun, generic⟩

/-- A test that a chain makes decides as the criterion of its field. -/
theorem agree?_of_mem_tests (h : (f, test) ∈ tests d p a b) :
    Ledger.agree? a b f test = Ledger.agree? a b f (criterionOf d p a b f) := by
  rcases of_mem_tests h with ⟨hcatalog, hschema, generic⟩ | own
  · obtain ⟨⟨-, apart, -⟩, rfl⟩ := mem_genericTests.1 generic
    have none : (ownCriteria d p a.kind).lookup f = none := by
      rw [List.lookup_eq_none_iff]
      intro t ht
      have : f ≠ t.1 := by
        rintro rfl
        exact apart (mem_setAside_of_ownCriteria ht hcatalog hschema)
      simpa using this
    rw [agree?_generic, criterionOf, none, Option.getD_none]
  · rw [criterionOf, lookup_ownCriteria own, Option.getD_some]

/-! ## What is reported -/

/-- The fields whose differences are taken out again. -/
def withdrawn (d : Dialect) : Object → Object → List Field
  | .table x, .table y =>
    .defaultTablespace ::
      if x.inDefaultTablespace && y.inDefaultTablespace then [.tablespace] else []
  | .column x, .column y =>
    if d.family = .postgres ∧ Rule.Column.serialColumns x y then [.type] else []
  | _, _ => []

theorem mem_fields_iff {o : Object} :
    f ∈ o.fields ↔ f ∈ o.kind.fields ∨ ∃ e ∈ o.attributes, f = .custom e.1 := by
  simp [Object.fields, eq_comm]

/-- The reportable fields are those that are tested and not taken out again. -/
theorem mem_reportable (hkind : a.kind = b.kind) :
    f ∈ reportable d p a b ↔ (∃ test, (f, test) ∈ tests d p a b) ∧ f ∉ withdrawn d a b := by
  cases a <;> cases b <;> cases hkind <;>
    simp only [reportable, Object.kind, List.mem_filter, List.mem_append, decide_eq_true_eq] <;>
    simp [tests, mem_genericTests, setAside, ownCriteria, unreported, withdrawn, Object.kind,
      mem_fields_iff, Kind.fields, Rule.Column.handled, Rule.ForeignKey.handled] <;>
    grind

/-- What the rules do in the end takes out fields, and may enter that only one column counts. -/
theorem mem_entries_adjust {e : Field × Change} (hl : Keyed.Sorted l.entries)
    (he : e.1 ≠ .autoIncrement) :
    e ∈ (adjust d p a b l).entries ↔ e ∈ l.entries ∧ e.1 ∉ withdrawn d a b := by
  have kept (r c : Option Value) :
      e ∈ (l.enter .autoIncrement r c none).entries ↔ e ∈ l.entries := by
    have apart (v : Change) : e ≠ (.autoIncrement, v) := fun h => he (congrArg Prod.fst h)
    simp [Ledger.enter, Keyed.mem_insert_iff hl, he, apart]
  cases a <;> cases b <;> simp only [adjust, adjustOwn, withdrawn, id_eq, List.not_mem_nil,
    not_false_eq_true, and_true]
  next x y => split <;> simp [Ledger.withdraw, and_assoc, and_comm]
  next x y => split <;> split <;> simp [Ledger.withdraw, kept]

theorem sorted_adjust (hl : Keyed.Sorted l.entries) : Keyed.Sorted (adjust d p a b l).entries := by
  have withdraw {l : Ledger} (f : Field) (hl : Keyed.Sorted l.entries) :
      Keyed.Sorted (l.withdraw f).entries := hl.filter _
  have own : Keyed.Sorted (adjustOwn p a b l).entries := by
    unfold adjustOwn
    split
    · split
      · exact withdraw _ (withdraw _ hl)
      · exact withdraw _ hl
    · split
      · exact Keyed.sorted_insert _ _ hl
      · exact hl
    · exact hl
  unfold adjust
  split
  · split
    · exact withdraw _ own
    · exact own
  · exact own

theorem mem_suppressedFields {k : Kind} : f ∈ p.suppressedFields k ↔ p.isSuppressed k f = true := by
  simp [Policy.suppressedFields, Policy.isSuppressed]

/-- A reportable field is in the ledger when its values do not agree, unless it is suppressed. -/
theorem mem_fields_iff_differ (hkind : a.kind = b.kind)
    (h : ((Rulebook.builtin d).judge d p).differences (some a) (some b) [] = .ok l)
    (hf : f ≠ .autoIncrement) (reported : f ∈ reportable d p a b) :
    f ∈ l.fields ↔ p.isSuppressed a.kind f = false ∧
      Ledger.Differ a b f (criterionOf d p a b f) := by
  rw [differences_eq hkind] at h
  obtain ⟨m, hm, rfl⟩ := Fallible.map_eq_ok.1 h
  have start := Ledger.records_new (p := p) (k := a.kind) (a := a) (b := b)
  obtain ⟨⟨test, tested⟩, kept⟩ := (mem_reportable hkind).1 reported
  have adjusted : f ∈ (adjust d p a b m).fields ↔ f ∈ m.fields := by
    simp only [Ledger.mem_fields, mem_entries_adjust (e := (f, _)) (start.compareAll hm).sorted hf,
      kept, not_false_eq_true, and_true]
  have decided (test : Criterion) (ht : (f, test) ∈ tests d p a b) :
      Ledger.Differ a b f test ↔ Ledger.Differ a b f (criterionOf d p a b f) := by
    rw [Ledger.Differ, Ledger.Differ, agree?_of_mem_tests ht]
  rw [adjusted, Ledger.mem_fields_compareAll start.sorted hm]
  have suppressed : f ∈ (Ledger.new p a.kind).suppressed ↔ p.isSuppressed a.kind f = true :=
    mem_suppressedFields
  have none : f ∉ (Ledger.new p a.kind).fields := List.not_mem_nil
  grind

/-- A reportable field whose values are known to agree or not to. -/
theorem mem_fields_iff_of_agree? {agreed : Bool} (hkind : a.kind = b.kind)
    (h : ((Rulebook.builtin d).judge d p).differences (some a) (some b) [] = .ok l)
    (hf : f ≠ .autoIncrement) (reported : f ∈ reportable d p a b)
    (agree : Ledger.agree? a b f (criterionOf d p a b f) = .ok agreed) :
    f ∈ l.fields ↔ p.isSuppressed a.kind f = false ∧ agreed = false := by
  rw [mem_fields_iff_differ hkind h hf reported, Ledger.Differ, agree, Except.ok.injEq]

/-- Whatever chain of rules finds them, the differences of two objects of one kind are a flat
ledger: a field is in it exactly when it is not suppressed, is reportable, and has values that are
unequal by its criterion. Each is there once, with the values compared. -/
theorem mem_differences_iff (hkind : a.kind = b.kind)
    (h : ((Rulebook.builtin d).judge d p).differences (some a) (some b) [] = .ok l) :
    Keyed.Sorted l.entries ∧ ∀ f ≠ .autoIncrement,
      (f ∈ l.fields ↔ p.isSuppressed a.kind f = false ∧ f ∈ reportable d p a b ∧
        Ledger.Unequal (criterionOf d p a b f) (a.get? f) (b.get? f)) ∧
      ∀ c, (f, c) ∈ l.entries → c = Ledger.changeOf a b f := by
  rw [differences_eq hkind] at h
  obtain ⟨m, hm, rfl⟩ := Fallible.map_eq_ok.1 h
  have start := Ledger.records_new (p := p) (k := a.kind) (a := a) (b := b)
  have records := start.compareAll hm
  refine ⟨sorted_adjust records.sorted, ?_⟩
  intro f hf
  have tested := Ledger.mem_fields_compareAll (f := f) start.sorted hm
  have decided (test : Criterion) (ht : (f, test) ∈ tests d p a b) :
      Ledger.Differ a b f test ↔ Ledger.Differ a b f (criterionOf d p a b f) := by
    rw [Ledger.Differ, Ledger.Differ, agree?_of_mem_tests ht]
  constructor
  · rw [mem_reportable hkind, ← Ledger.differ_iff_unequal]
    have suppressed : f ∈ (Ledger.new p a.kind).suppressed ↔ p.isSuppressed a.kind f = true :=
      mem_suppressedFields
    have adjusted : f ∈ (adjust d p a b m).fields ↔ f ∈ m.fields ∧ f ∉ withdrawn d a b := by
      simp only [Ledger.mem_fields, mem_entries_adjust (e := (f, _)) records.sorted hf,
        exists_and_right]
    rw [adjusted, tested, suppressed]
    have none : f ∉ (Ledger.new p a.kind).fields := List.not_mem_nil
    grind
  · intro c hc
    exact records.change _ ((mem_entries_adjust (e := (f, c)) records.sorted hf).1 hc).1

/-- A column that counts on its own, with custom attributes. -/
def countingColumn (origin : Nat) (type : String) (order : Int) (attributes : Attributes) :
    Object :=
  .column
    { tag := .entry origin .column 0, name := some "id", relation := none,
      dataType := some (.bare type), nullable := none, defaultValue := none, remarks := none,
      order := some order, computed := none, descending := none,
      autoIncrement := some ⟨none, none⟩, attributes }

/-- In Postgres a serial column and the integer column it becomes differ neither in type nor in
order, but in a custom attribute that is called a type. -/
theorem mem_differences_iff_serial :
    ∃ l, ((Rulebook.builtin .postgres).judge .postgres .standard).differences
        (some (countingColumn 0 "serial" 1 [("type", .list [.text "key"])]))
        (some (countingColumn 1 "INT4" 2 [("type", .text "code")])) [] = .ok l ∧
      .custom "type" ∈ l.fields ∧ .type ∉ l.fields ∧ .order ∉ l.fields := by
  obtain ⟨l, hl⟩ := Fallible.exists_eq_ok_of_isOk (x :=
    ((Rulebook.builtin .postgres).judge .postgres .standard).differences
      (some (countingColumn 0 "serial" 1 [("type", .list [.text "key"])]))
      (some (countingColumn 1 "INT4" 2 [("type", .text "code")])) []) (by decide +kernel)
  have flat := (mem_differences_iff (by rfl) hl).2
  refine ⟨l, hl, ?_, ?_, ?_⟩
  · rw [(flat _ (by decide)).1]
    decide +kernel
  · rw [(flat _ (by decide)).1]
    decide +kernel
  · rw [(flat _ (by decide)).1]
    decide +kernel

end Differences

end SchemaDelta

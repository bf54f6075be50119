import SchemaDelta.Config
import SchemaDelta.Document.Resolve
import SchemaDelta.Proofs.Account
import SchemaDelta.Proofs.Differences
import SchemaDelta.Proofs.Reordering
import SchemaDelta.Report

/-!
# Suppressed fields

A configuration lists the names of fields that are not reported, kind by kind. A name
stands for one field, and comparing leaves this field out wherever the values of two
objects are compared. What it does not stand for is a custom field that carries the name
of a well-known one, and that only one of two columns counts on its own is entered without
being compared: that difference goes by the field of what is counted, not by its own.

## Main definitions

* `Report.differencesOf` — the differences that a report tells of the objects of a kind.
-/

namespace SchemaDelta

/-! ## Names of fields -/

/-- A field is what its name stands for, unless it is a custom one with the name of a well-known
one. -/
theorem Field.eq_ofText_or_shadows (f : Field) :
    f = ofText f.text ∨ f = custom f.text ∧ f.text ∈ known.map text := by
  cases hf : f.isCustom with
  | false => exact .inl (ofText_text hf).symm
  | true =>
    cases f <;> cases hf
    next key =>
    by_cases h : key ∈ known.map text
    · exact .inr ⟨rfl, h⟩
    · left
      have unknown : known.find? (fun f => f.text == key) = none := by
        rw [List.find?_eq_none]
        intro f hf same
        exact h (List.mem_map.2 ⟨f, hf, eq_of_beq same⟩)
      rw [text, ofText, unknown, Option.getD_none]

namespace Config

variable {c : Config} {p : Policy} {k : Kind} {key n : String} {names : List String}

theorem kind?_eq_ok : kind? key = .ok k ↔ Kind.parse? key = some k := by
  unfold kind?
  cases Kind.parse? key <;> simp

/-- The field that a listed name stands for is suppressed. -/
theorem isSuppressed_of_listed (hp : c.policy? = .ok p) (listed : (key, names) ∈ c.suppressed)
    (hk : Kind.parse? key = some k) (hn : n ∈ names) : p.isSuppressed k (.ofText n) = true := by
  obtain ⟨_, -, hp⟩ := Fallible.bind_eq_ok.1 hp
  obtain ⟨suppressed, hs, hp⟩ := Fallible.bind_eq_ok.1 hp
  rw [← Fallible.pure_eq_ok.1 hp, Policy.isSuppressed, List.contains_iff_mem, List.mem_flatten]
  obtain ⟨fields, hfields, step⟩ := Fallible.exists_mem_of_mapM hs listed
  rw [suppressedOf, kind?_eq_ok.2 hk, Fallible.ok_bind, Fallible.pure_eq_ok] at step
  exact ⟨fields, hfields, step ▸ List.mem_map_of_mem hn⟩

end Config

/-! ## Ledgers -/

namespace Differences

variable {d : Dialect} {p : Policy} {a b : Object} {l : Ledger} {f : Field}

/-- That only one column counts on its own is all that is entered without being compared. -/
theorem of_mem_entries_adjust {e : Field × Change} (he : e ∈ (adjust d p a b l).entries) :
    e ∈ l.entries ∨ e.1 = .autoIncrement ∧ a.kind = .column ∧
      p.isSuppressed .column .autoIncrementInformation = false := by
  have withdrawn {l : Ledger} {f : Field} (h : e ∈ (l.withdraw f).entries) : e ∈ l.entries :=
    (List.mem_filter.1 h).1
  have own (he : e ∈ (adjustOwn p a b l).entries) : e ∈ l.entries ∨ e.1 = .autoIncrement ∧
      a.kind = .column ∧ p.isSuppressed .column .autoIncrementInformation = false := by
    unfold adjustOwn at he
    split at he
    · have he := withdrawn he
      split at he
      · exact .inl (withdrawn he)
      · exact .inl he
    · split at he
      · next counts =>
        rcases Keyed.mem_insert he with rfl | he
        · exact .inr ⟨rfl, rfl, by simpa using (Bool.and_eq_true_iff.1 counts).2⟩
        · exact .inl he
      · exact .inl he
    · exact .inl he
  unfold adjust at he
  split at he
  · split at he
    · exact own (withdrawn he)
    · exact own he
  · exact own he

/-- No difference is found in a suppressed field, but that only one column counts on its own. -/
theorem isSuppressed_of_mem_fields (hkind : a.kind = b.kind)
    (h : ((Rulebook.builtin d).judge d p).differences (some a) (some b) [] = .ok l)
    (hf : f ∈ l.fields) :
    p.isSuppressed a.kind f = false ∨ f = .autoIncrement ∧ a.kind = .column ∧
      p.isSuppressed .column .autoIncrementInformation = false := by
  rw [differences_eq hkind] at h
  obtain ⟨m, hm, rfl⟩ := Fallible.map_eq_ok.1 h
  obtain ⟨c, hc⟩ := Ledger.mem_fields.1 hf
  refine (of_mem_entries_adjust hc).imp_left fun hc => ?_
  have start := Ledger.records_new (p := p) (k := a.kind) (a := a) (b := b)
  rcases (Ledger.mem_fields_compareAll start.sorted hm).1 (Ledger.mem_fields.2 ⟨c, hc⟩) with
    new | ⟨reported, -⟩
  · cases new
  · rw [← Bool.not_eq_true, ← mem_suppressedFields]
    exact reported

end Differences

/-! ## Reports -/

section

variable {d : Dialect} {p : Policy} {R C : Snapshot} {f : Findings} {k : Kind}

/-- A changed pair is of one kind, and its ledger is what the judge finds. -/
theorem differences_of_mem_changed {j : Judge} (h : compareSnapshots j p R C = .ok f)
    {x : ChangedPair} (hx : x ∈ f.changed) :
    x.reference.kind = x.comparison.kind ∧
      j.differences (some x.reference) (some x.comparison) [] = .ok x.ledger := by
  have accounted := accounted_compareSnapshots h
  obtain ⟨m, explains⟩ := accounted.explained x.reference.kind (accounted.changed.key_mem hx)
  obtain ⟨all, hall, changed⟩ := explains.changed
  have mem : x ∈ f.changedOf x.reference.kind := List.mem_filter.2 ⟨hx, beq_self_eq_true _⟩
  rw [changed] at mem
  obtain ⟨pair, ledger⟩ := (Pairing.mem_compared hall).1 (List.mem_filter.1 mem).1
  have object := (Pairing.mem_of_mem_pairs pair).2
  exact ⟨(mem_ofKind.1 object).2.symm, ledger⟩

namespace Report

/-- The differences that a report tells of the objects of a kind. -/
def differencesOf (r : Report) (k : Kind) : List DifferenceEntry :=
  ((r.missing ++ r.unexpected ++ r.changed).filter fun e => e.kind == k).flatMap (·.differences)

/-- What a report tells of a kind are the differences of the changed pairs of this kind. -/
theorem exists_of_mem_differencesOf {timestamp : String} {x : DifferenceEntry}
    (hx : x ∈ (ofFindings f timestamp).differencesOf k) :
    ∃ c ∈ f.changed, c.reference.kind = k ∧ x.field ∈ c.ledger.fields := by
  obtain ⟨e, he, hx⟩ := List.mem_flatMap.1 hx
  obtain ⟨he, hk⟩ := List.mem_filter.1 he
  have hk := eq_of_beq hk
  have bare {kinds : List Kind} {found : Kind → List Object}
      (he : e ∈ kinds.flatMap fun k =>
        (Findings.sortBy id Findings.displayOrder (found k)).map .ofObject) : False := by
    obtain ⟨_, -, he⟩ := List.mem_flatMap.1 he
    obtain ⟨o, -, rfl⟩ := List.mem_map.1 he
    cases hx
  rcases List.mem_append.1 he with he | he
  · rcases List.mem_append.1 he with he | he <;> exact (bare he).elim
  · obtain ⟨_, -, he⟩ := List.mem_flatMap.1 he
    obtain ⟨c, hc, rfl⟩ := List.mem_map.1 he
    have mem := (List.mergeSort_perm _ _).subset hc
    obtain ⟨⟨_, d⟩, hd, rfl⟩ := List.mem_map.1 hx
    obtain ⟨entry, hentry, heq⟩ := List.mem_map.1 hd
    cases heq
    exact ⟨c, (List.mem_filter.1 mem).1, hk, List.mem_map_of_mem hentry⟩

/-- Where a configuration lists a name among the suppressed ones of a kind, the report of a run
tells no difference of objects of this kind in the field that the name stands for. It does tell
one under this name where a custom attribute carries the name of a well-known field, which is a
field of its own; and that only one of two columns counts on its own goes by the field that is
suppressed under the name `autoIncrementInformation`. -/
theorem field_of_suppressed_name {c : Config} (hp : c.policy? = .ok p) {key n : String}
    {names : List String} (listed : (key, names) ∈ c.suppressed) (hk : Kind.parse? key = some k)
    (hn : n ∈ names) (d : Dialect)
    (run : compareSnapshots ((Rulebook.builtin d).judge d p) p R C = .ok f) (timestamp : String) :
    ∀ x ∈ (ofFindings f timestamp).differencesOf k, x.field.text = n →
      x.field = .custom n ∧ n ∈ Field.known.map Field.text ∨
        x.field = .autoIncrement ∧ k = .column ∧
          p.isSuppressed .column .autoIncrementInformation = false := by
  rintro x hx rfl
  obtain ⟨pair, hpair, rfl, field⟩ := exists_of_mem_differencesOf hx
  obtain ⟨kinds, ledger⟩ := differences_of_mem_changed run hpair
  rcases Differences.isSuppressed_of_mem_fields kinds ledger field with reported | counting
  · refine (Field.eq_ofText_or_shadows x.field).elim (fun same => ?_) .inl
    rw [same, Config.isSuppressed_of_listed hp listed hk hn] at reported
    cases reported
  · exact .inr counting

/-- A configuration that lists two names of fields of columns. -/
def quietColumns : Config where
  suppressed := [("column", ["autoIncrement", "nullable"])]
  sorted := List.pairwise_singleton ..

/-- What the configuration leaves out. -/
def quietPolicy : Policy :=
  { Policy.standard with suppressed := [(.column, .autoIncrement), (.column, .nullable)] }

/-- A document of one column with a custom attribute `nullable`. -/
def idColumn (counts : Option AutoIncrement) (nullable : String) : Document where
  productName := none
  productVersion := none
  catalogs := []
  schemas := []
  tables := [⟨"users", none, none, none, none, []⟩]
  columns :=
    [{ table := "users", schema := none, name := "id", type := none, nullable := none,
       defaultValue := none, remarks := none, order := none, computed := none, descending := none,
       autoIncrement := counts, attributes := [("nullable", .string nullable)] }]
  indexes := []
  primaryKeys := []
  foreignKeys := []
  uniqueConstraints := []

theorem differencesOf_idColumn :
    ∃ R C, (idColumn (some ⟨none, none⟩) "yes").resolve 0 = .ok R ∧
      (idColumn none "no").resolve 1 = .ok C ∧
      ∃ f, compareSnapshots ((Rulebook.builtin .postgres).judge .postgres quietPolicy) quietPolicy
          R C = .ok f ∧
        ((ofFindings f "").differencesOf .column).map (·.field) =
          [.autoIncrement, .custom "nullable"] := by
  refine ⟨_, _, rfl, rfl, Fallible.map_eq_ok.1 ?_⟩
  rw [Rulebook.compareSnapshots_eq_scan (by decide +kernel)]
  decide +kernel

theorem field_of_suppressed_name_idColumn :
    ∃ R C f, compareSnapshots ((Rulebook.builtin .postgres).judge .postgres quietPolicy) quietPolicy
        R C = .ok f ∧
      "nullable" ∈ ((ofFindings f "").differencesOf .column).map (·.field.text) ∧
      ∀ x ∈ (ofFindings f "").differencesOf .column, x.field.text = "nullable" →
        x.field = .custom "nullable" := by
  obtain ⟨R, C, -, -, f, run, told⟩ := differencesOf_idColumn
  have hp : quietColumns.policy? = .ok quietPolicy := by decide +kernel
  have hk : Kind.parse? "column" = some .column := by decide +kernel
  have names := congrArg (List.map Field.text) told
  rw [List.map_map] at names
  refine ⟨R, C, f, run, names ▸ List.mem_cons_of_mem _ List.mem_cons_self, fun x hx named => ?_⟩
  rcases field_of_suppressed_name hp List.mem_cons_self hk (by decide) .postgres run "" x hx
    named with ⟨custom, -⟩ | ⟨counting, -⟩
  · exact custom
  · rw [counting] at named
    exact absurd named (by decide)

/-- A report tells differences under names that are suppressed: of a custom attribute with the name
of a well-known field, and that only one column counts on its own. -/
theorem suppressed_names_told :
    quietColumns.policy? = .ok quietPolicy ∧
      ("column", ["autoIncrement", "nullable"]) ∈ quietColumns.suppressed ∧
      Kind.parse? "column" = some .column ∧
      ∃ R C, (idColumn (some ⟨none, none⟩) "yes").resolve 0 = .ok R ∧
        (idColumn none "no").resolve 1 = .ok C ∧
        ∃ f, compareSnapshots ((Rulebook.builtin .postgres).judge .postgres quietPolicy) quietPolicy
            R C = .ok f ∧
          ((ofFindings f "").differencesOf .column).map (·.field.text) =
            ["autoIncrement", "nullable"] := by
  obtain ⟨R, C, hR, hC, f, run, told⟩ := differencesOf_idColumn
  refine ⟨by decide +kernel, List.mem_cons_self, by decide +kernel, R, C, hR, hC, f, run, ?_⟩
  have names := congrArg (List.map Field.text) told
  rwa [List.map_map] at names

end Report

end

end SchemaDelta

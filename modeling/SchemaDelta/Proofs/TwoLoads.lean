import SchemaDelta.Proofs.Copies
import SchemaDelta.Proofs.Data
import SchemaDelta.Proofs.Meeting
import SchemaDelta.Proofs.Mirror

/-!
# Loading a document twice

Two loads of one document have no instance in common, and yet comparing them finds every
object again. Only keys that nothing identifies stay alone on both sides: primary keys
without a table and without a name that says something, and foreign keys without a name
that do not link two tables.

## Main definitions

* `Document.anonymousKeys` — the compared keys of a document that nothing identifies.
-/

namespace SchemaDelta

namespace Document

variable {D : Document} {origin : Nat} {s : Snapshot} {p : Policy}

/-! ## Keys without identity -/

/-- A primary key without a table whose name is missing or blank. -/
def PrimaryKeyEntry.isAnonymous (e : PrimaryKeyEntry) : Bool :=
  e.table.isNone && e.name.all fun name => Text.trim name == ""

/-- A foreign key without a name, one of whose tables is missing. -/
def ForeignKeyEntry.isAnonymous (e : ForeignKeyEntry) : Bool :=
  e.name.isNone && (e.table.isNone || e.referencedTable.isNone)

/-- The compared keys of a document that nothing identifies, as they are reported. -/
def anonymousKeys (D : Document) (p : Policy) : List (Kind × String) :=
  (if .primaryKey ∈ p.kinds then
    (D.primaryKeys.filter (·.isAnonymous)).map fun e =>
      (.primaryKey, e.name.getD "(unnamed primaryKey)") else []) ++
  (if .foreignKey ∈ p.kinds then
    (D.foreignKeys.filter (·.isAnonymous)).map fun _ => (.foreignKey, "(unnamed foreignKey)")
    else [])

theorem foldedName_isNone (name : Option String) :
    (Rule.PrimaryKey.foldedName name).isNone = name.all fun name => Text.trim name == "" := by
  cases name with
  | none => rfl
  | some name =>
    cases h : Text.trim name == "" <;> simp_all [Rule.PrimaryKey.foldedName, Option.filter]

section

variable {known : Declared} {position : Nat} {context : String} {schema name : Option String}

/-- A table is linked exactly when one is stated, and then it has a name. -/
theorem tableWithName_isNone {t : Option Table} (h : known.table schema name context = .ok t) :
    (Rule.PrimaryKey.tableWithName t).isNone = name.isNone ∧ t.isNone = name.isNone := by
  cases name with
  | none =>
    cases h
    exact ⟨rfl, rfl⟩
  | some n =>
    obtain ⟨t, rfl⟩ := Option.isSome_iff_exists.1 (Declared.isSome_of_table_some h)
    have named := (Declared.table_eq_some h).2.1
    simp [Rule.PrimaryKey.tableWithName, Option.filter, named]

theorem isAnonymous_of_resolvePrimaryKey {e : PrimaryKeyEntry} {k : PrimaryKey}
    (h : resolvePrimaryKey known origin position e = .ok k) :
    Identity.isAnonymous (.primaryKey k) = e.isAnonymous ∧ k.name = e.name := by
  simp only [resolvePrimaryKey, Fallible.bind_eq_ok, Fallible.pure_eq_ok] at h
  obtain ⟨t, ht, _, -, _, -, rfl⟩ := h
  refine ⟨?_, rfl⟩
  rw [Identity.isAnonymous, (tableWithName_isNone ht).1, foldedName_isNone]
  rfl

theorem isAnonymous_of_resolveForeignKey {e : ForeignKeyEntry} {k : ForeignKey}
    (h : resolveForeignKey known origin position e = .ok k) :
    Identity.isAnonymous (.foreignKey k) = e.isAnonymous ∧ k.name = e.name := by
  simp only [resolveForeignKey, Fallible.bind_eq_ok, Fallible.pure_eq_ok] at h
  obtain ⟨t, ht, u, hu, _, -, _, -, _, -, rfl⟩ := h
  refine ⟨?_, rfl⟩
  simp only [Identity.isAnonymous, Rule.ForeignKey.isResolved, Bool.not_and, Option.not_isSome,
    (tableWithName_isNone ht).2, (tableWithName_isNone hu).2]
  rfl

end

theorem map_filter_of_forall₂ {α β γ : Type} {chosen : α → Bool} {chosen' : β → Bool}
    {show' : β → γ} {shown : α → γ} {as : List α} {bs : List β}
    (h : List.Forall₂ (fun a b => chosen' b = chosen a ∧ (chosen a = true → show' b = shown a))
      as bs) :
    (bs.filter chosen').map show' = (as.filter chosen).map shown := by
  induction h with
  | nil => rfl
  | @cons a b as bs h _ ih =>
    obtain ⟨same, label⟩ := h
    cases ha : chosen a <;> simp_all

/-- A finding as it is reported: its kind and the name that it is shown under. -/
def label (o : Object) : Kind × String := (o.kind, o.display)

theorem label_moveTo (origin : Nat) : label ∘ (·.moveTo origin) = label := by
  funext o
  simp [label]

theorem labels_of_anonymous (hs : D.resolve origin = .ok s) :
    (p.orderedKinds.flatMap fun k => (s.ofKind k).filter Identity.isAnonymous).map label =
      D.anonymousKeys p := by
  obtain ⟨x, rfl⟩ := resolve_eq_ok.1 hs
  have primaryKeys : ((x.snapshot.ofKind .primaryKey).filter Identity.isAnonymous).map label =
      (D.primaryKeys.filter (·.isAnonymous)).map fun e =>
        (.primaryKey, e.name.getD "(unnamed primaryKey)") := by
    rw [x.ofKind_snapshot]
    refine map_filter_of_forall₂ (List.forall₂_map_right_iff.2 ?_)
    refine forall₂_of_resolveAll x.resolvePrimaryKeys fun position e k step => ?_
    obtain ⟨anonymous, named⟩ := isAnonymous_of_resolvePrimaryKey step
    refine ⟨anonymous, fun _ => ?_⟩
    rw [← named]
    rfl
  have foreignKeys : ((x.snapshot.ofKind .foreignKey).filter Identity.isAnonymous).map label =
      (D.foreignKeys.filter (·.isAnonymous)).map fun _ =>
        (.foreignKey, "(unnamed foreignKey)") := by
    rw [x.ofKind_snapshot]
    refine map_filter_of_forall₂ (List.forall₂_map_right_iff.2 ?_)
    refine forall₂_of_resolveAll x.resolveForeignKeys fun position e k step => ?_
    obtain ⟨anonymous, named⟩ := isAnonymous_of_resolveForeignKey step
    refine ⟨anonymous, fun h => ?_⟩
    have unnamed : k.name = none := by
      rw [named]
      exact Option.isNone_iff_eq_none.1 (Bool.and_eq_true_iff.1 h).1
    change (Kind.foreignKey, k.name.getD _) = _
    rw [unnamed]
    rfl
  have others (k : Kind) (hp : k ≠ .primaryKey) (hf : k ≠ .foreignKey) :
      (x.snapshot.ofKind k).filter Identity.isAnonymous = [] := by
    rw [List.filter_eq_nil_iff]
    intro o ho
    have hk := (mem_ofKind.1 ho).2
    cases o <;> simp_all [Identity.isAnonymous, Object.kind]
  rw [List.map_flatMap, flatMap_orderedKinds, anonymousKeys, ← primaryKeys, ← foreignKeys]
  simp [Kind.all, others]

end Document

open Identity

variable {D : Document} {o₁ o₂ : Nat} {s₁ s₂ : Snapshot}

/-- Two loads of a document mirror each other, but for the keys that nothing identifies. -/
theorem mirrors_of_resolve (h₁ : D.resolve o₁ = .ok s₁) (hne : o₁ ≠ o₂) (d : Dialect) (p : Policy) :
    Mirrors ((Rulebook.builtin d).judge d p) p (·.moveTo o₂) isAnonymous
      (fun o => Ledger.new p o.kind) s₁.objects where
  meet o _ := by
    rw [Rulebook.judge_keysMeet_iff, keysOf_moveTo]
    exact meet_self _
  same o _ identified := by rw [Rulebook.judge_same, same_moveTo identified]
  apart o ho o' _ h := by
    -- the two carry different origins, so they are no one instance
    have differ : o ≠ o'.moveTo o₂ := by
      rintro rfl
      exact hne (Document.origin_tag_of_mem h₁ ho ▸ Object.origin_tag_moveTo)
    rw [← isAnonymous_moveTo o₂ o'] at h
    rw [Rulebook.judge_same, same, alike_of_isAnonymous h]
    simp [differ]
  differ o ho _ :=
    Differences.differences_of_alike (Object.alike_moveTo (Document.withoutNan_of_mem h₁ ho))
  unreported o _ _ h := h.1 rfl

theorem filter_isAnonymous (objects : List Object) :
    (objects.filter isAnonymous).filter (fun o => !Findings.standsForExpression o) =
      objects.filter isAnonymous := by
  rw [List.filter_eq_self]
  intro o ho
  have anonymous := (List.mem_filter.1 ho).2
  cases o <;> simp_all [isAnonymous, Findings.standsForExpression]

/-- Two loads of a document have nothing in common, and yet they differ only in the keys that
nothing identifies: primary keys without a table whose name is missing or blank, and foreign keys
without a name one of whose tables is missing. Each of these is missing as well as unexpected. -/
theorem compareSnapshots_of_resolve_twice (h₁ : D.resolve o₁ = .ok s₁) (h₂ : D.resolve o₂ = .ok s₂)
    (hne : o₁ ≠ o₂) (d : Dialect) (p : Policy) :
    ∃ f, compareSnapshots ((Rulebook.builtin d).judge d p) p s₁ s₂ = .ok f ∧ f.changed = [] ∧
      f.missing.map (fun o => (o.kind, o.display)) = D.anonymousKeys p ∧
      f.unexpected.map (fun o => (o.kind, o.display)) = D.anonymousKeys p ∧
      (f.areEqual ↔ D.anonymousKeys p = []) := by
  have run := (mirrors_of_resolve h₁ hne d p).compareSnapshots_eq_ok
    (Document.objects_of_resolve h₁ h₂) fun o _ => Object.kind_moveTo
  have labels := Document.labels_of_anonymous (p := p) h₁
  have missing : (p.orderedKinds.flatMap fun k => ((s₁.ofKind k).filter isAnonymous).filter
      fun o => !Findings.standsForExpression o).map Document.label = D.anonymousKeys p := by
    simp only [filter_isAnonymous, labels]
  have unexpected : (p.orderedKinds.flatMap fun k =>
      ((s₁.ofKind k).filter isAnonymous).map (·.moveTo o₂)).map Document.label =
        D.anonymousKeys p := by
    rw [← labels, List.map_flatMap, List.map_flatMap]
    simp only [List.map_map, Document.label_moveTo]
  have empty {found : List Object} (h : found.map Document.label = D.anonymousKeys p) :
      found = [] ↔ D.anonymousKeys p = [] := by
    rw [← h, List.map_eq_nil_iff]
  refine ⟨_, run, rfl, missing, unexpected, Findings.areEqual_iff.trans ?_⟩
  constructor
  · exact fun h => (empty missing).1 h.1
  · exact fun h => ⟨(empty missing).2 h, (empty unexpected).2 h, rfl⟩

/-- A document of two tables of one name, a column with data, and keys that belong to no table. -/
def looseKeys : Document where
  productName := none
  productVersion := none
  catalogs := []
  schemas := []
  tables := [⟨"users", none, none, none, none, [("owner", .string "ops")]⟩,
    ⟨"users", none, none, none, none, []⟩]
  columns :=
    [{ table := "users", schema := none, name := "age", type := some "int", nullable := none,
       defaultValue := some (.array [.integer 1, .float (.finite false 1 (-1)) rfl]), remarks := none,
       order := some 1, computed := none, descending := none, autoIncrement := none,
       attributes := [] }]
  indexes := []
  primaryKeys := [⟨some " ", none, none, [.named "id"], none, []⟩,
    ⟨some "pk_users", none, none, [], none, []⟩]
  foreignKeys :=
    [{ name := none, table := some "users", schema := none, columns := [],
       referencedTable := none, referencedSchema := none, referencedColumns := [],
       updateRule := none, deleteRule := none, deferrable := none, initiallyDeferred := none,
       validate := none, backingIndex := none, attributes := [] }]
  uniqueConstraints := []

theorem compareSnapshots_of_resolve_twice_looseKeys :
    ∃ s₁ s₂ f, looseKeys.resolve 0 = .ok s₁ ∧ looseKeys.resolve 1 = .ok s₂ ∧
      compareSnapshots ((Rulebook.builtin .postgres).judge .postgres .standard) .standard s₁ s₂ =
        .ok f ∧ f.changed = [] ∧
      f.missing.map (fun o => (o.kind, o.display)) =
        [(.primaryKey, " "), (.foreignKey, "(unnamed foreignKey)")] ∧ f.areEqual = false := by
  have h₁ : looseKeys.resolve 0 = .ok _ := rfl
  have h₂ : looseKeys.resolve 1 = .ok _ := rfl
  have loose : looseKeys.anonymousKeys .standard =
      [(.primaryKey, " "), (.foreignKey, "(unnamed foreignKey)")] := by
    decide +kernel
  obtain ⟨f, run, changed, missing, -, equal⟩ :=
    compareSnapshots_of_resolve_twice h₁ h₂ (by decide) .postgres .standard
  rw [loose] at missing equal
  refine ⟨_, _, f, h₁, h₂, run, changed, missing, ?_⟩
  simpa using equal

end SchemaDelta

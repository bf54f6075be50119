import SchemaDelta.Document.Resolve
import SchemaDelta.Proofs.Fallible

/-!
# Resolved documents

A document resolves exactly when its sections do, each against those before it. The
sections of a resolved document are kept together with the steps that led to them, and an
object of a section has the name of its entry and links to objects of earlier sections.

## Main definitions

* `Document.Sections` — the resolved sections of a document.
-/

namespace SchemaDelta.Document

variable {D : Document} {origin : Nat} {known : Declared} {context : String}

/-! ## Looking up -/

theorem found_eq_ok {α : Type} {x : Option α} {k : Kind} {name : String} {a : α} :
    found x context k name = .ok a ↔ x = some a := by
  cases x <;> simp [found]

theorem mem_of_findLast? {α : Type} {q : α → Bool} {xs : List α} {a : α}
    (h : findLast? q xs = some a) : a ∈ xs ∧ q a = true :=
  ⟨List.mem_reverse.1 (List.mem_of_find?_eq_some h), List.find?_some h⟩

/-- A table that was looked up is declared, under the name and schema that were stated. -/
theorem Declared.table_eq_some {schema name : Option String} {t : Table}
    (h : known.table schema name context = .ok (some t)) :
    t ∈ known.tables ∧ t.name = name ∧ t.schema.bind (·.name) = schema := by
  cases name with
  | none => cases h
  | some name =>
    obtain ⟨t', ht', heq⟩ := Fallible.map_eq_ok.1 h
    obtain rfl := Option.some.inj heq
    obtain ⟨mem, called⟩ := mem_of_findLast? (found_eq_ok.1 ht')
    simp only [isTable, Bool.and_eq_true, beq_iff_eq] at called
    exact ⟨mem, called⟩

theorem Declared.isSome_of_table_some {schema : Option String} {name : String} {t : Option Table}
    (h : known.table schema (some name) context = .ok t) : t.isSome := by
  obtain ⟨t', -, rfl⟩ := Fallible.map_eq_ok.1 h
  rfl

theorem mem_resolveAll {α β : Type} {resolve : Nat → α → Except UnresolvedReference β}
    {entries : List α} {bs : List β} (h : resolveAll resolve entries = .ok bs) {b : β}
    (hb : b ∈ bs) : ∃ e ∈ entries, ∃ position, resolve position e = .ok b := by
  obtain ⟨⟨e, position⟩, mem, step⟩ := Fallible.exists_of_mem_mapM h hb
  exact ⟨e, List.fst_mem_of_mem_zipIdx mem, position, step⟩

theorem forall₂_of_resolveAll {α β : Type} {resolve : Nat → α → Except UnresolvedReference β}
    {entries : List α} {bs : List β} {P : α → β → Prop} (h : resolveAll resolve entries = .ok bs)
    (hP : ∀ position e b, resolve position e = .ok b → P e b) : List.Forall₂ P entries bs := by
  have steps := (Fallible.mapM_eq_ok.1 h).imp fun e b step => hP e.2 e.1 b step
  rw [← List.zipIdx_map_fst 0 entries]
  exact List.forall₂_map_left_iff.2 steps

/-! ## Data of entries -/

section

variable {position : Nat}

theorem attributes_of_resolveSchema {e : SchemaEntry} {y : Schema}
    (h : resolveSchema known origin position e = .ok y) : y.attributes = [] := by
  unfold resolveSchema at h
  split at h <;>
  · simp only [Fallible.bind_eq_ok, Fallible.pure_eq_ok] at h
    obtain ⟨_, -, rfl⟩ := h
    rfl

theorem attributes_of_resolveTable {e : TableEntry} {t : Table}
    (h : resolveTable known origin position e = .ok t) :
    t.attributes = objectAttributes e.attributes := by
  simp only [resolveTable, Fallible.bind_eq_ok, Fallible.pure_eq_ok] at h
  obtain ⟨_, -, rfl⟩ := h
  rfl

theorem data_of_resolveColumn {e : ColumnEntry} {c : Column}
    (h : resolveColumn known origin position e = .ok c) :
    c.attributes = objectAttributes e.attributes ∧
      c.defaultValue = (e.defaultValue.filter fun j => !j.isNull).map Value.ofJson := by
  simp only [resolveColumn, Fallible.bind_eq_ok, Fallible.pure_eq_ok] at h
  obtain ⟨_, -, rfl⟩ := h
  exact ⟨rfl, rfl⟩

theorem attributes_of_resolveIndex {e : IndexEntry} {i : Index}
    (h : resolveIndex known origin position e = .ok i) :
    i.attributes = objectAttributes e.attributes := by
  simp only [resolveIndex, Fallible.bind_eq_ok, Fallible.pure_eq_ok] at h
  obtain ⟨_, -, _, -, _, -, rfl⟩ := h
  rfl

theorem attributes_of_resolvePrimaryKey {e : PrimaryKeyEntry} {k : PrimaryKey}
    (h : resolvePrimaryKey known origin position e = .ok k) :
    k.attributes = objectAttributes e.attributes := by
  simp only [resolvePrimaryKey, Fallible.bind_eq_ok, Fallible.pure_eq_ok] at h
  obtain ⟨_, -, _, -, _, -, rfl⟩ := h
  rfl

theorem attributes_of_resolveForeignKey {e : ForeignKeyEntry} {k : ForeignKey}
    (h : resolveForeignKey known origin position e = .ok k) :
    k.attributes = objectAttributes e.attributes := by
  simp only [resolveForeignKey, Fallible.bind_eq_ok, Fallible.pure_eq_ok] at h
  obtain ⟨_, -, _, -, _, -, _, -, _, -, rfl⟩ := h
  rfl

theorem attributes_of_resolveUniqueConstraint {e : UniqueConstraintEntry} {u : UniqueConstraint}
    (h : resolveUniqueConstraint known origin position e = .ok u) :
    u.attributes = objectAttributes e.attributes := by
  simp only [resolveUniqueConstraint, Fallible.bind_eq_ok, Fallible.pure_eq_ok] at h
  obtain ⟨_, -, _, -, _, -, _, -, rfl⟩ := h
  rfl

end

/-! ## Sections -/

def catalogObjects (D : Document) (origin : Nat) : List Catalog :=
  D.catalogs.zipIdx.map fun (e, position) => resolveCatalog origin position e

/-- The resolved sections of a document, each with the step that led to it. -/
structure Sections (D : Document) (origin : Nat) where
  schemas : List Schema
  tables : List Table
  columns : List Column
  indexes : List Index
  primaryKeys : List PrimaryKey
  foreignKeys : List ForeignKey
  uniqueConstraints : List UniqueConstraint
  resolveSchemas :
    resolveAll (resolveSchema ⟨D.catalogObjects origin, [], [], [], []⟩ origin) D.schemas =
      .ok schemas
  resolveTables :
    resolveAll (resolveTable ⟨D.catalogObjects origin, schemas, [], [], []⟩ origin) D.tables =
      .ok tables
  resolveColumns :
    resolveAll (resolveColumn ⟨D.catalogObjects origin, schemas, tables, [], []⟩ origin)
      D.columns = .ok columns
  resolveIndexes :
    resolveAll (resolveIndex ⟨D.catalogObjects origin, schemas, tables, columns, []⟩ origin)
      D.indexes = .ok indexes
  resolvePrimaryKeys :
    resolveAll
      (resolvePrimaryKey ⟨D.catalogObjects origin, schemas, tables, columns, indexes⟩ origin)
      D.primaryKeys = .ok primaryKeys
  resolveForeignKeys :
    resolveAll
      (resolveForeignKey ⟨D.catalogObjects origin, schemas, tables, columns, indexes⟩ origin)
      D.foreignKeys = .ok foreignKeys
  resolveUniqueConstraints :
    resolveAll
      (resolveUniqueConstraint ⟨D.catalogObjects origin, schemas, tables, columns, indexes⟩ origin)
      D.uniqueConstraints = .ok uniqueConstraints

namespace Sections

/-- The snapshot that the sections make. -/
def snapshot (x : Sections D origin) : Snapshot where
  productName := D.productName
  productVersion := D.productVersion
  objects := (D.catalogObjects origin).map .catalog ++ x.schemas.map .schema ++
    x.tables.map .table ++ x.columns.map .column ++ x.indexes.map .index ++
    x.primaryKeys.map .primaryKey ++ x.foreignKeys.map .foreignKey ++
    x.uniqueConstraints.map .uniqueConstraint

/-- The objects of a kind are those of its section. -/
theorem ofKind_snapshot (x : Sections D origin) (k : Kind) :
    x.snapshot.ofKind k =
      match k with
      | .catalog => (D.catalogObjects origin).map .catalog
      | .schema => x.schemas.map .schema
      | .table => x.tables.map .table
      | .column => x.columns.map .column
      | .index => x.indexes.map .index
      | .primaryKey => x.primaryKeys.map .primaryKey
      | .foreignKey => x.foreignKeys.map .foreignKey
      | .uniqueConstraint => x.uniqueConstraints.map .uniqueConstraint := by
  cases k <;>
    simp [snapshot, Snapshot.ofKind, List.filter_map, Function.comp_def, Object.kind, beq_eq_decide]

end Sections

/-- A document resolves exactly when its sections do. -/
theorem resolve_eq_ok {s : Snapshot} :
    D.resolve origin = .ok s ↔ ∃ x : Sections D origin, x.snapshot = s := by
  simp only [resolve, Fallible.bind_eq_ok, Fallible.pure_eq_ok]
  constructor
  · rintro ⟨schemas, hs, tables, ht, columns, hc, indexes, hi, primaryKeys, hp, foreignKeys, hf,
      uniqueConstraints, hu, rfl⟩
    exact ⟨⟨schemas, tables, columns, indexes, primaryKeys, foreignKeys, uniqueConstraints, hs, ht,
      hc, hi, hp, hf, hu⟩, rfl⟩
  · rintro ⟨x, rfl⟩
    exact ⟨_, x.resolveSchemas, _, x.resolveTables, _, x.resolveColumns, _, x.resolveIndexes, _,
      x.resolvePrimaryKeys, _, x.resolveForeignKeys, _, x.resolveUniqueConstraints, rfl⟩

namespace Sections

variable (x : Sections D origin)

theorem table_of_mem {t : Table} (h : t ∈ x.tables) : ∃ e ∈ D.tables, t.name = some e.name := by
  obtain ⟨e, he, _, step⟩ := mem_resolveAll x.resolveTables h
  obtain ⟨_, -, step⟩ := Fallible.bind_eq_ok.1 step
  exact ⟨e, he, by rw [← Fallible.pure_eq_ok.1 step]⟩

theorem column_of_mem {c : Column} (h : c ∈ x.columns) :
    ∃ e ∈ D.columns, c.name = some e.name ∧ ∃ t ∈ x.tables, c.relation = some t := by
  obtain ⟨e, he, _, step⟩ := mem_resolveAll x.resolveColumns h
  obtain ⟨t, ht, step⟩ := Fallible.bind_eq_ok.1 step
  obtain ⟨t, rfl⟩ := Option.isSome_iff_exists.1 (Declared.isSome_of_table_some ht)
  refine ⟨e, he, ?_, t, (Declared.table_eq_some ht).1, ?_⟩ <;> rw [← Fallible.pure_eq_ok.1 step]

theorem index_of_mem {i : Index} (h : i ∈ x.indexes) :
    ∃ e ∈ D.indexes, i.name = e.name ∧ ∀ t ∈ i.table, t ∈ x.tables := by
  obtain ⟨e, he, _, step⟩ := mem_resolveAll x.resolveIndexes h
  obtain ⟨t, ht, step⟩ := Fallible.bind_eq_ok.1 step
  obtain ⟨_, -, step⟩ := Fallible.bind_eq_ok.1 step
  obtain ⟨_, -, step⟩ := Fallible.bind_eq_ok.1 step
  obtain rfl := Fallible.pure_eq_ok.1 step
  refine ⟨e, he, rfl, ?_⟩
  intro u hu
  obtain rfl : t = some u := hu
  exact (Declared.table_eq_some ht).1

theorem foreignKey_of_mem {k : ForeignKey} (h : k ∈ x.foreignKeys) :
    ∃ e ∈ D.foreignKeys, k.name = e.name ∧ (∀ t ∈ k.foreignTable, t ∈ x.tables) ∧
      ∀ t ∈ k.primaryTable, t ∈ x.tables := by
  obtain ⟨e, he, _, step⟩ := mem_resolveAll x.resolveForeignKeys h
  obtain ⟨t, ht, step⟩ := Fallible.bind_eq_ok.1 step
  obtain ⟨t', ht', step⟩ := Fallible.bind_eq_ok.1 step
  obtain ⟨_, -, step⟩ := Fallible.bind_eq_ok.1 step
  obtain ⟨_, -, step⟩ := Fallible.bind_eq_ok.1 step
  obtain ⟨_, -, step⟩ := Fallible.bind_eq_ok.1 step
  obtain rfl := Fallible.pure_eq_ok.1 step
  refine ⟨e, he, rfl, ?_, ?_⟩
  · intro u hu
    obtain rfl : t = some u := hu
    exact (Declared.table_eq_some ht).1
  · intro u hu
    obtain rfl : t' = some u := hu
    exact (Declared.table_eq_some ht').1

theorem uniqueConstraint_of_mem {u : UniqueConstraint} (h : u ∈ x.uniqueConstraints) :
    ∃ e ∈ D.uniqueConstraints, u.name = e.name ∧ ∀ t ∈ u.table, t ∈ x.tables := by
  obtain ⟨e, he, _, step⟩ := mem_resolveAll x.resolveUniqueConstraints h
  obtain ⟨t, ht, step⟩ := Fallible.bind_eq_ok.1 step
  obtain ⟨_, -, step⟩ := Fallible.bind_eq_ok.1 step
  obtain ⟨_, -, step⟩ := Fallible.bind_eq_ok.1 step
  obtain ⟨_, -, step⟩ := Fallible.bind_eq_ok.1 step
  obtain rfl := Fallible.pure_eq_ok.1 step
  refine ⟨e, he, rfl, ?_⟩
  intro v hv
  obtain rfl : t = some v := hv
  exact (Declared.table_eq_some ht).1

end Sections

end SchemaDelta.Document

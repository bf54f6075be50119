import Mathlib.Tactic.MkIffOfInductiveProp
import SchemaDelta.Proofs.Linked

/-!
# Documents that resolve

A document resolves exactly when the references of its entries are declared, and which
these are can be told from the entries alone. A name that says where a table is refers to
nothing where no table is stated: the schemas of keys without their tables and the backing
indexes of entries without a table are not looked up.

## Main definitions

* `Document.ReferencesDeclared` — what the entries of a document refer to is declared.
-/

namespace SchemaDelta.Document

/-! ## Declared references -/

section

variable (D : Document)

/-- A schema is declared, if one is stated. -/
def DeclaresSchema (schema : Option String) : Prop :=
  ∀ name ∈ schema, ∃ e ∈ D.schemas, e.name = name

/-- A table is declared under its stated schema, and so is this schema, if a table is stated. -/
def DeclaresTable (schema table : Option String) : Prop :=
  ∀ name ∈ table, (∃ e ∈ D.tables, e.name = name ∧ e.schema = schema) ∧ D.DeclaresSchema schema

/-- A column that is listed by name is declared for the table, if a table is stated. -/
def DeclaresColumn (schema table : Option String) (ref : ColumnRef) : Prop :=
  ∀ t ∈ table, ∀ name, ref = .named name →
    ∃ e ∈ D.columns, e.name = name ∧ e.table = t ∧ e.schema = schema

/-- An index is declared on the table, if both are stated. -/
def DeclaresIndex (schema table index : Option String) : Prop :=
  ∀ t ∈ table, ∀ name ∈ index,
    ∃ e ∈ D.indexes, e.name = some name ∧ e.table = some t ∧ e.schema = schema

/-- What the entries of a document refer to is declared. -/
@[mk_iff]
structure ReferencesDeclared : Prop where
  schemas : ∀ e ∈ D.schemas, ∀ name ∈ e.catalog, ∃ c ∈ D.catalogs, c.name = name
  tables : ∀ e ∈ D.tables, D.DeclaresSchema e.schema
  columns : ∀ e ∈ D.columns, D.DeclaresTable e.schema (some e.table)
  indexes : ∀ e ∈ D.indexes, D.DeclaresTable e.schema e.table ∧
    (∀ ref ∈ e.columns, D.DeclaresColumn e.schema e.table ref) ∧ D.DeclaresSchema e.schema
  primaryKeys : ∀ e ∈ D.primaryKeys, D.DeclaresTable e.schema e.table ∧
    (∀ ref ∈ e.columns, D.DeclaresColumn e.schema e.table ref) ∧
    D.DeclaresIndex e.schema e.table e.backingIndex
  foreignKeys : ∀ e ∈ D.foreignKeys, D.DeclaresTable e.schema e.table ∧
    D.DeclaresTable e.referencedSchema e.referencedTable ∧
    (∀ ref ∈ e.columns, D.DeclaresColumn e.schema e.table ref) ∧
    (∀ ref ∈ e.referencedColumns, D.DeclaresColumn e.referencedSchema e.referencedTable ref) ∧
    D.DeclaresIndex e.schema e.table e.backingIndex
  uniqueConstraints : ∀ e ∈ D.uniqueConstraints, D.DeclaresTable e.schema e.table ∧
    (∀ ref ∈ e.columns, D.DeclaresColumn e.schema e.table ref) ∧
    D.DeclaresIndex e.schema e.table e.backingIndex ∧ D.DeclaresSchema e.schema

end

variable {D : Document} {d : Declared} {origin : Nat} {context : String}

/-! ## Look-ups that succeed -/

/-- A look-up among what entries became succeeds exactly when there is an entry to find. -/
theorem exists_found_iff {α β : Type} {q : β → Bool} {p : α → Prop} {entries : List α}
    {objects : List β} (h : List.Forall₂ (fun e b => q b = true ↔ p e) entries objects)
    (context : String) (k : Kind) (name : String) :
    (∃ b, found (findLast? q objects) context k name = .ok b) ↔ ∃ e ∈ entries, p e := by
  have declared : (∃ b ∈ objects, q b = true) ↔ ∃ e ∈ entries, p e := by
    induction h with
    | nil => simp
    | cons same _ ih => simp [same, ih]
  simp only [found_eq_ok, ← declared, findLast?, ← Option.isSome_iff_exists, List.find?_isSome,
    List.mem_reverse]

/-- A section resolves exactly when all of its entries do. -/
theorem exists_resolveAll_iff {α β : Type} {resolve : Nat → α → Except UnresolvedReference β}
    {p : α → Prop} {entries : List α} (h : ∀ position e, (∃ b, resolve position e = .ok b) ↔ p e) :
    (∃ objects, resolveAll resolve entries = .ok objects) ↔ ∀ e ∈ entries, p e := by
  constructor
  · rintro ⟨objects, hobjects⟩ e he
    rw [← List.zipIdx_map_fst 0 entries] at he
    obtain ⟨x, hx, rfl⟩ := List.mem_map.1 he
    obtain ⟨b, -, hb⟩ := Fallible.exists_mem_of_mapM hobjects hx
    exact (h x.2 x.1).1 ⟨b, hb⟩
  · intro all
    refine Fallible.exists_mapM_eq_ok fun x hx => (h x.2 x.1).2 (all _ ?_)
    exact List.fst_mem_of_mem_zipIdx hx

/-- The table of an object is the one that its entry states. -/
def IsStated (table : Option Table) (schema name : Option String) : Prop :=
  table.isSome = name.isSome ∧ ∀ t ∈ table, t.name = name ∧ t.schema.bind (·.name) = schema

/-! ## What the sections resolve to -/

section

variable (D : Document)

/-- The catalogs are those of the document. -/
def HasCatalogs (catalogs : List Catalog) : Prop :=
  List.Forall₂ (fun e c => c.name = some e.name) D.catalogs catalogs

/-- The schemas are those of the document. -/
def HasSchemas (schemas : List Schema) : Prop :=
  List.Forall₂ (fun e y => y.name = some e.name) D.schemas schemas

/-- The tables are those of the document, each in its stated schema. -/
structure HasTables (tables : List Table) : Prop where
  tables : List.Forall₂ (fun e t => t.name = some e.name ∧ t.schema.bind (·.name) = e.schema)
    D.tables tables
  schemas : ∀ e ∈ D.tables, D.DeclaresSchema e.schema

/-- The columns are those of the document, each on its stated table. -/
def HasColumns (columns : List Column) : Prop :=
  List.Forall₂ (fun e c => c.name = some e.name ∧ IsStated c.relation e.schema (some e.table))
    D.columns columns

/-- The indexes are those of the document, each on its stated table. -/
def HasIndexes (indexes : List Index) : Prop :=
  List.Forall₂ (fun e i => i.name = e.name ∧ IsStated i.table e.schema e.table) D.indexes indexes

end

namespace Declared

variable {schema schema' name name' : Option String}

theorem isStated {t : Option Table} (h : d.table schema name context = .ok t) :
    IsStated t schema name :=
  (table_spec h).imp_right fun spec a ha => (spec a ha).2

/-- Whether an object is on a table can be told from the entries. -/
theorem onTable_iff {t : Table} {relation : Option Table} (ht : IsStated (some t) schema name)
    (hr : IsStated relation schema' name') :
    onTable t relation = true ↔ name' = name ∧ schema' = schema := by
  obtain ⟨set, stated⟩ := ht
  obtain ⟨set', stated'⟩ := hr
  obtain ⟨rfl, rfl⟩ := stated t rfl
  cases relation with
  | none =>
    refine iff_of_false nofun ?_
    rintro ⟨rfl, -⟩
    rw [← set] at set'
    cases set'
  | some r =>
    obtain ⟨rfl, rfl⟩ := stated' r rfl
    simp [onTable]

theorem exists_schema_iff (h : D.HasSchemas d.schemas) :
    (∃ y, d.schema name context = .ok y) ↔ D.DeclaresSchema name := by
  cases name with
  | none => exact iff_of_true ⟨none, rfl⟩ nofun
  | some name =>
    have called : List.Forall₂ (fun e y => isCalled name y.name = true ↔ e.name = name)
        D.schemas d.schemas := h.imp fun e y same => by simp [isCalled, same]
    rw [Declared.schema, Fallible.exists_map_iff, exists_found_iff called]
    simp [DeclaresSchema]

theorem exists_table_iff (h : D.HasTables d.tables) :
    (∃ t, d.table schema name context = .ok t) ↔ D.DeclaresTable schema name := by
  cases name with
  | none => exact iff_of_true ⟨none, rfl⟩ nofun
  | some name =>
    have called : List.Forall₂
        (fun e t => isTable schema name t = true ↔ e.name = name ∧ e.schema = schema)
        D.tables d.tables := h.tables.imp fun e t same => by simp [isTable, same]
    rw [Declared.table, Fallible.exists_map_iff, exists_found_iff called]
    constructor
    · rintro ⟨e, he, rfl, rfl⟩ _ ⟨⟩
      exact ⟨⟨e, he, rfl, rfl⟩, h.schemas e he⟩
    · exact fun declared => (declared name rfl).1

theorem exists_column_iff (h : D.HasColumns d.columns) {t : Option Table}
    (ht : IsStated t schema name) {ref : ColumnRef} {tag : Tag} :
    (∃ c, d.column t ref tag context = .ok c) ↔ D.DeclaresColumn schema name ref := by
  cases ref with
  | expression => exact iff_of_true ⟨_, rfl⟩ fun _ _ _ => nofun
  | named column =>
    cases t with
    | none =>
      have unstated : name = none := Option.not_isSome_iff_eq_none.1 (by simp [← ht.1])
      exact iff_of_true ⟨_, rfl⟩ (by simp [DeclaresColumn, unstated])
    | some t =>
      obtain ⟨named, rfl⟩ := Option.isSome_iff_exists.1 ht.1.symm
      have called : List.Forall₂ (fun e c =>
          (onTable t c.relation && isCalled column c.name) = true ↔
            e.name = column ∧ e.table = named ∧ e.schema = schema)
          D.columns d.columns := h.imp fun e c ⟨same, stated⟩ => by
        simp [isCalled, same, onTable_iff ht stated, and_comm]
      rw [Declared.column, exists_found_iff called]
      simp [DeclaresColumn]

theorem exists_columnsOf_iff (h : D.HasColumns d.columns) {t : Option Table}
    (ht : IsStated t schema name) {refs : List ColumnRef} {tag : Nat → Tag} :
    (∃ columns, d.columnsOf t refs tag context = .ok columns) ↔
      ∀ ref ∈ refs, D.DeclaresColumn schema name ref := by
  rw [columnsOf_eq_resolveAll]
  exact exists_resolveAll_iff fun slot ref => exists_column_iff h ht

theorem exists_backingIndex_iff (h : D.HasIndexes d.indexes) {t : Option Table}
    (ht : IsStated t schema name) {index : Option String} :
    (∃ i, d.backingIndex t index context = .ok i) ↔ D.DeclaresIndex schema name index := by
  cases t with
  | none =>
    have unstated : name = none := Option.not_isSome_iff_eq_none.1 (by simp [← ht.1])
    exact iff_of_true ⟨none, rfl⟩ (by simp [DeclaresIndex, unstated])
  | some t =>
    cases index with
    | none => exact iff_of_true ⟨none, rfl⟩ (fun _ _ => nofun)
    | some index =>
      obtain ⟨named, rfl⟩ := Option.isSome_iff_exists.1 ht.1.symm
      have called : List.Forall₂ (fun e i =>
          (onTable t i.table && isCalled index i.name) = true ↔
            e.name = some index ∧ e.table = some named ∧ e.schema = schema)
          D.indexes d.indexes := h.imp fun e i ⟨same, stated⟩ => by
        simp [isCalled, same, onTable_iff ht stated, and_comm]
      rw [Declared.backingIndex, Fallible.exists_map_iff, exists_found_iff called]
      simp [DeclaresIndex]

end Declared

/-! ## Entries that resolve -/

section

variable {position : Nat}

theorem exists_resolveSchema_iff (h : D.HasCatalogs d.catalogs) {e : SchemaEntry} :
    (∃ y, resolveSchema d origin position e = .ok y) ↔
      ∀ name ∈ e.catalog, ∃ c ∈ D.catalogs, c.name = name := by
  unfold resolveSchema
  split
  · next none => exact iff_of_true ⟨_, rfl⟩ (by simp [none])
  · next name some =>
    have called : List.Forall₂ (fun e c => isCalled name c.name = true ↔ e.name = name)
        D.catalogs d.catalogs := h.imp fun e c same => by simp [isCalled, same]
    refine Fallible.exists_bind_pure_iff ?_
    rw [Fallible.exists_map_iff, exists_found_iff called]
    simp [some]

theorem exists_resolveTable_iff (h : D.HasSchemas d.schemas) {e : TableEntry} :
    (∃ t, resolveTable d origin position e = .ok t) ↔ D.DeclaresSchema e.schema :=
  Fallible.exists_bind_pure_iff (Declared.exists_schema_iff h)

theorem exists_resolveColumn_iff (h : D.HasTables d.tables) {e : ColumnEntry} :
    (∃ c, resolveColumn d origin position e = .ok c) ↔
      D.DeclaresTable e.schema (some e.table) :=
  Fallible.exists_bind_pure_iff (Declared.exists_table_iff h)

theorem exists_resolveIndex_iff (hs : D.HasSchemas d.schemas) (ht : D.HasTables d.tables)
    (hc : D.HasColumns d.columns) {e : IndexEntry} :
    (∃ i, resolveIndex d origin position e = .ok i) ↔
      D.DeclaresTable e.schema e.table ∧
        (∀ ref ∈ e.columns, D.DeclaresColumn e.schema e.table ref) ∧
        D.DeclaresSchema e.schema :=
  Fallible.exists_bind_iff (Declared.exists_table_iff ht) fun _ table =>
    Fallible.exists_bind_iff (Declared.exists_columnsOf_iff hc (Declared.isStated table)) fun _ _ =>
      Fallible.exists_bind_pure_iff (Declared.exists_schema_iff hs)

theorem exists_resolvePrimaryKey_iff (ht : D.HasTables d.tables) (hc : D.HasColumns d.columns)
    (hi : D.HasIndexes d.indexes) {e : PrimaryKeyEntry} :
    (∃ k, resolvePrimaryKey d origin position e = .ok k) ↔
      D.DeclaresTable e.schema e.table ∧
        (∀ ref ∈ e.columns, D.DeclaresColumn e.schema e.table ref) ∧
        D.DeclaresIndex e.schema e.table e.backingIndex :=
  Fallible.exists_bind_iff (Declared.exists_table_iff ht) fun _ table =>
    have stated := Declared.isStated table
    Fallible.exists_bind_iff (Declared.exists_columnsOf_iff hc stated) fun _ _ =>
      Fallible.exists_bind_pure_iff (Declared.exists_backingIndex_iff hi stated)

theorem exists_resolveForeignKey_iff (ht : D.HasTables d.tables) (hc : D.HasColumns d.columns)
    (hi : D.HasIndexes d.indexes) {e : ForeignKeyEntry} :
    (∃ k, resolveForeignKey d origin position e = .ok k) ↔
      D.DeclaresTable e.schema e.table ∧
        D.DeclaresTable e.referencedSchema e.referencedTable ∧
        (∀ ref ∈ e.columns, D.DeclaresColumn e.schema e.table ref) ∧
        (∀ ref ∈ e.referencedColumns,
          D.DeclaresColumn e.referencedSchema e.referencedTable ref) ∧
        D.DeclaresIndex e.schema e.table e.backingIndex :=
  Fallible.exists_bind_iff (Declared.exists_table_iff ht) fun _ table =>
    Fallible.exists_bind_iff (Declared.exists_table_iff ht) fun _ referenced =>
      have stated := Declared.isStated table
      Fallible.exists_bind_iff (Declared.exists_columnsOf_iff hc stated) fun _ _ =>
        Fallible.exists_bind_iff
          (Declared.exists_columnsOf_iff hc (Declared.isStated referenced)) fun _ _ =>
            Fallible.exists_bind_pure_iff (Declared.exists_backingIndex_iff hi stated)

theorem exists_resolveUniqueConstraint_iff (hs : D.HasSchemas d.schemas) (ht : D.HasTables d.tables)
    (hc : D.HasColumns d.columns) (hi : D.HasIndexes d.indexes) {e : UniqueConstraintEntry} :
    (∃ u, resolveUniqueConstraint d origin position e = .ok u) ↔
      D.DeclaresTable e.schema e.table ∧
        (∀ ref ∈ e.columns, D.DeclaresColumn e.schema e.table ref) ∧
        D.DeclaresIndex e.schema e.table e.backingIndex ∧ D.DeclaresSchema e.schema :=
  Fallible.exists_bind_iff (Declared.exists_table_iff ht) fun _ table =>
    have stated := Declared.isStated table
    Fallible.exists_bind_iff (Declared.exists_columnsOf_iff hc stated) fun _ _ =>
      Fallible.exists_bind_iff (Declared.exists_backingIndex_iff hi stated) fun _ _ =>
        Fallible.exists_bind_pure_iff (Declared.exists_schema_iff hs)

/-! ## Sections that resolve -/

theorem hasCatalogs : D.HasCatalogs (D.catalogObjects origin) :=
  forall₂_of_resolveAll resolveAll_catalogs fun position e c step => by
    rw [← Fallible.pure_eq_ok.1 step]
    rfl

theorem hasSchemas {schemas : List Schema}
    (h : resolveAll (resolveSchema d origin) D.schemas = .ok schemas) : D.HasSchemas schemas :=
  forall₂_of_resolveAll h fun position e y step => by
    unfold resolveSchema at step
    split at step <;>
    · obtain ⟨_, -, step⟩ := Fallible.bind_eq_ok.1 step
      rw [← Fallible.pure_eq_ok.1 step]

theorem hasTables (hs : D.HasSchemas d.schemas) {tables : List Table}
    (h : resolveAll (resolveTable d origin) D.tables = .ok tables) : D.HasTables tables where
  tables := forall₂_of_resolveAll h fun position e t step => by
    obtain ⟨y, hy, step⟩ := Fallible.bind_eq_ok.1 step
    obtain rfl := Fallible.pure_eq_ok.1 step
    exact ⟨rfl, Declared.schema_name hy⟩
  schemas := (exists_resolveAll_iff (p := fun e => D.DeclaresSchema e.schema)
    fun _ _ => exists_resolveTable_iff hs).1 ⟨tables, h⟩

theorem hasColumns {columns : List Column}
    (h : resolveAll (resolveColumn d origin) D.columns = .ok columns) : D.HasColumns columns :=
  forall₂_of_resolveAll h fun position e c step => by
    obtain ⟨t, ht, step⟩ := Fallible.bind_eq_ok.1 step
    obtain rfl := Fallible.pure_eq_ok.1 step
    exact ⟨rfl, Declared.isStated ht⟩

theorem hasIndexes {indexes : List Index}
    (h : resolveAll (resolveIndex d origin) D.indexes = .ok indexes) : D.HasIndexes indexes :=
  forall₂_of_resolveAll h fun position e i step => by
    simp only [resolveIndex, Fallible.bind_eq_ok, Fallible.pure_eq_ok] at step
    obtain ⟨t, ht, _, -, _, -, rfl⟩ := step
    exact ⟨rfl, Declared.isStated ht⟩

end

/-- A document resolves exactly when what its entries refer to is declared. -/
theorem exists_resolve_iff : (∃ s, D.resolve origin = .ok s) ↔ D.ReferencesDeclared := by
  rw [referencesDeclared_iff, resolve]
  refine Fallible.exists_bind_iff
    (exists_resolveAll_iff fun _ _ => exists_resolveSchema_iff hasCatalogs)
    fun schemas resolved => ?_
  have hs := hasSchemas resolved
  refine Fallible.exists_bind_iff
    (exists_resolveAll_iff fun _ _ => exists_resolveTable_iff hs) fun tables resolved => ?_
  have ht := hasTables hs resolved
  refine Fallible.exists_bind_iff
    (exists_resolveAll_iff fun _ _ => exists_resolveColumn_iff ht) fun columns resolved => ?_
  have hc := hasColumns resolved
  refine Fallible.exists_bind_iff
    (exists_resolveAll_iff fun _ _ => exists_resolveIndex_iff hs ht hc) fun indexes resolved => ?_
  have hi := hasIndexes resolved
  refine Fallible.exists_bind_iff
    (exists_resolveAll_iff fun _ _ => exists_resolvePrimaryKey_iff ht hc hi) fun _ _ => ?_
  refine Fallible.exists_bind_iff
    (exists_resolveAll_iff fun _ _ => exists_resolveForeignKey_iff ht hc hi) fun _ _ => ?_
  exact Fallible.exists_bind_pure_iff
    (exists_resolveAll_iff fun _ _ => exists_resolveUniqueConstraint_iff hs ht hc hi)

/-- Either what the entries of a document refer to is declared and the document resolves, or it is
rejected for an unresolved reference. -/
theorem resolve_iff_referencesDeclared (D : Document) (origin : Nat) :
    ((∃ s, D.resolve origin = .ok s) ↔ D.ReferencesDeclared) ∧
      ((∃ e : UnresolvedReference, D.resolve origin = .error e) ↔ ¬ D.ReferencesDeclared) := by
  refine ⟨exists_resolve_iff, ?_⟩
  rw [← exists_resolve_iff]
  cases D.resolve origin <;> simp

/-- A document of keys that state where their tables are, but no tables. -/
def keysWithoutTables : Document where
  productName := none
  productVersion := none
  catalogs := []
  schemas := []
  tables := []
  columns := []
  indexes := []
  primaryKeys := [⟨some "pk", none, some "sales", [], some "pk_ix", []⟩]
  foreignKeys :=
    [{ name := some "fk", table := none, schema := none, columns := [], referencedTable := none,
       referencedSchema := some "sales", referencedColumns := [], updateRule := none,
       deleteRule := none, deferrable := none, initiallyDeferred := none, validate := none,
       backingIndex := none, attributes := [] }]
  uniqueConstraints := []

/-- Where no table is stated, neither the schema of a key nor its backing index is looked up. -/
theorem resolve_keysWithoutTables :
    (∃ s, keysWithoutTables.resolve 0 = .ok s) ∧
      (∃ e ∈ keysWithoutTables.primaryKeys, ¬ keysWithoutTables.DeclaresSchema e.schema) ∧
      (∃ e ∈ keysWithoutTables.foreignKeys,
        ¬ keysWithoutTables.DeclaresSchema e.referencedSchema) ∧
      ∃ e ∈ keysWithoutTables.primaryKeys,
        ∃ name ∈ e.backingIndex, ∀ i ∈ keysWithoutTables.indexes, i.name ≠ some name := by
  have undeclared : ¬ keysWithoutTables.DeclaresSchema (some "sales") := fun declared => by
    obtain ⟨_, he, -⟩ := declared "sales" rfl
    cases he
  exact ⟨⟨_, rfl⟩, ⟨_, List.mem_cons_self, undeclared⟩, ⟨_, List.mem_cons_self, undeclared⟩,
    ⟨_, List.mem_cons_self, "pk_ix", rfl, nofun⟩⟩

end SchemaDelta.Document

import Mathlib.Data.List.Nodup
import SchemaDelta.Proofs.Resolved

/-!
# Links of resolved documents

Resolving a document makes one object of every entry, in order. A link is set exactly
where its entry gives a name, and it leads to an object of the snapshot itself. Sections
are linked one by one, and later declarations take over names from earlier ones, but a
name leads to the same object from everywhere: what an index links to as its schema is
what its table links to.

## Main definitions

* `Snapshot.Leads` — a link leads to an object of a snapshot.
* `Document.Linked` — a snapshot has the objects of a document, with their links.
-/

namespace SchemaDelta

/-! ## Closed and consistent snapshots -/

namespace Snapshot

variable (s : Snapshot)

/-- A link is set where a name is given, and leads to an object of the snapshot with this name. -/
structure Leads {α : Type} (wrap : α → Object) (link : Option α) (name : Option String) :
    Prop where
  isSome : link.isSome = name.isSome
  mem : ∀ a ∈ link, wrap a ∈ s.objects
  named : ∀ a ∈ link, (wrap a).name = name

/-- A link leads to a table, in the schema that is stated for it. -/
structure LeadsToTable (table : Option Table) (schema name : Option String) : Prop where
  leads : s.Leads .table table name
  schema : ∀ t ∈ table, t.schema.bind (·.name) = schema

/-- A link is set where there is a table and a name is given, and leads to an index of the snapshot
with this name on the same table. -/
structure LeadsToIndex (index : Option Index) (table : Option Table) (name : Option String) :
    Prop where
  isSome : index.isSome = (table.isSome && name.isSome)
  mem : ∀ i ∈ index, .index i ∈ s.objects
  named : ∀ i ∈ index, i.name = name
  table : ∀ i ∈ index, i.table = table

/-- A member of a column list becomes a column on the table of the list: one of the snapshot's own
where the member is a name and there is a table. -/
def HasMember (table : Option Table) (ref : Document.ColumnRef) (c : Column) : Prop :=
  c.relation = table ∧
    match ref with
    | .named name => c.name = some name ∧ (table.isSome → .column c ∈ s.objects)
    | .expression name .. => c.name = some name

/-- A column list holds a column on its table for every member. -/
def HasMembers (table : Option Table) (refs : List Document.ColumnRef) (columns : List Column) :
    Prop :=
  List.Forall₂ (s.HasMember table) refs columns

end Snapshot

namespace Document

section

variable (s : Snapshot)

structure SchemaEntry.Becomes (e : SchemaEntry) (y : Schema) : Prop where
  name : y.name = some e.name
  catalog : s.Leads .catalog y.catalog e.catalog

structure TableEntry.Becomes (e : TableEntry) (t : Table) : Prop where
  name : t.name = some e.name
  schema : s.Leads .schema t.schema e.schema

structure ColumnEntry.Becomes (e : ColumnEntry) (c : Column) : Prop where
  name : c.name = some e.name
  relation : s.LeadsToTable c.relation e.schema (some e.table)

structure IndexEntry.Becomes (e : IndexEntry) (i : Index) : Prop where
  name : i.name = e.name
  table : s.LeadsToTable i.table e.schema e.table
  schema : s.Leads .schema i.ownSchema e.schema
  schemaOfTable : ∀ t ∈ i.table, i.ownSchema = t.schema ∧ i.schema = t.schema
  columns : s.HasMembers i.table e.columns i.columns

structure PrimaryKeyEntry.Becomes (e : PrimaryKeyEntry) (k : PrimaryKey) : Prop where
  name : k.name = e.name
  table : s.LeadsToTable k.table e.schema e.table
  columns : s.HasMembers k.table e.columns k.columns
  backingIndex : s.LeadsToIndex k.backingIndex k.table e.backingIndex

structure ForeignKeyEntry.Becomes (e : ForeignKeyEntry) (k : ForeignKey) : Prop where
  name : k.name = e.name
  foreignTable : s.LeadsToTable k.foreignTable e.schema e.table
  primaryTable : s.LeadsToTable k.primaryTable e.referencedSchema e.referencedTable
  foreignColumns : s.HasMembers k.foreignTable e.columns k.foreignColumns
  primaryColumns : s.HasMembers k.primaryTable e.referencedColumns k.primaryColumns
  backingIndex : s.LeadsToIndex k.backingIndex k.foreignTable e.backingIndex

structure UniqueConstraintEntry.Becomes (e : UniqueConstraintEntry) (u : UniqueConstraint) :
    Prop where
  name : u.name = e.name
  table : s.LeadsToTable u.table e.schema e.table
  schema : s.Leads .schema u.ownSchema e.schema
  schemaOfTable : ∀ t ∈ u.table, u.ownSchema = t.schema ∧ u.schema = t.schema
  columns : s.HasMembers u.table e.columns u.columns
  backingIndex : s.LeadsToIndex u.backingIndex u.table e.backingIndex

end

/-- The objects of a kind are those that the entries of a section become, in order, each an
instance of its own. -/
structure Lists {α β : Type} (s : Snapshot) (k : Kind) (wrap : β → Object)
    (becomes : α → β → Prop) (entries : List α) : Prop where
  objects : List.Forall₂ (fun e o => ∃ b, o = wrap b ∧ becomes e b) entries (s.ofKind k)
  instances : ((s.ofKind k).map (·.tag)).Nodup

/-- The objects of a snapshot are one for every entry of a document, in order, and every link leads
to the object that its entry names. -/
structure Linked (D : Document) (s : Snapshot) : Prop where
  catalogs : Lists s .catalog .catalog (fun e c => c.name = some e.name) D.catalogs
  schemas : Lists s .schema .schema (SchemaEntry.Becomes s) D.schemas
  tables : Lists s .table .table (TableEntry.Becomes s) D.tables
  columns : Lists s .column .column (ColumnEntry.Becomes s) D.columns
  indexes : Lists s .index .index (IndexEntry.Becomes s) D.indexes
  primaryKeys : Lists s .primaryKey .primaryKey (PrimaryKeyEntry.Becomes s) D.primaryKeys
  foreignKeys : Lists s .foreignKey .foreignKey (ForeignKeyEntry.Becomes s) D.foreignKeys
  uniqueConstraints : Lists s .uniqueConstraint .uniqueConstraint
    (UniqueConstraintEntry.Becomes s) D.uniqueConstraints

/-! ## Names lead to one object -/

theorem exists_of_found {α : Type} {q : α → Bool} {xs : List α} {context text : String} {k : Kind}
    {link : Option α} (h : (found (findLast? q xs) context k text).map some = .ok link) :
    ∃ a ∈ xs, q a = true ∧ link = some a := by
  obtain ⟨a, ha, rfl⟩ := Fallible.map_eq_ok.1 h
  obtain ⟨mem, here⟩ := mem_of_findLast? (found_eq_ok.1 ha)
  exact ⟨a, mem, here, rfl⟩

namespace Declared

variable {d : Declared} {context context' : String} {schema schema' name name' : Option String}

theorem schema_spec {y : Option Schema} (h : d.schema name context = .ok y) :
    y.isSome = name.isSome ∧ ∀ a ∈ y, a ∈ d.schemas ∧ a.name = name := by
  cases name with
  | none =>
    cases h
    exact ⟨rfl, nofun⟩
  | some name =>
    obtain ⟨y, mem, called, rfl⟩ := exists_of_found h
    refine ⟨rfl, ?_⟩
    rintro _ ⟨⟩
    exact ⟨mem, eq_of_beq called⟩

theorem schema_name {y : Option Schema} (h : d.schema name context = .ok y) :
    y.bind (·.name) = name := by
  obtain ⟨set, named⟩ := schema_spec h
  cases y with
  | none => exact (Option.not_isSome_iff_eq_none.1 (by simp [← set])).symm
  | some y => exact (named y rfl).2

theorem table_spec {t : Option Table} (h : d.table schema name context = .ok t) :
    t.isSome = name.isSome ∧
      ∀ a ∈ t, a ∈ d.tables ∧ a.name = name ∧ a.schema.bind (·.name) = schema := by
  constructor
  · cases name with
    | none =>
      cases h
      rfl
    | some name => exact isSome_of_table_some h
  · rintro a ⟨⟩
    exact table_eq_some h

/-- Schemas that were looked up are one if they have one name. -/
theorem schema_unique {y y' : Option Schema} (h : d.schema name context = .ok y)
    (h' : d.schema name' context' = .ok y') (same : y.bind (·.name) = y'.bind (·.name)) :
    y = y' := by
  rw [schema_name h, schema_name h'] at same
  subst same
  cases name with
  | none =>
    cases h
    cases h'
    rfl
  | some name =>
    obtain ⟨a, ha, rfl⟩ := Fallible.map_eq_ok.1 h
    obtain ⟨b, hb, rfl⟩ := Fallible.map_eq_ok.1 h'
    exact (found_eq_ok.1 ha).symm.trans (found_eq_ok.1 hb)

/-- Tables that were looked up are one if they have one name, in schemas of one name. -/
theorem table_unique {t t' : Table} (h : d.table schema name context = .ok (some t))
    (h' : d.table schema' name' context' = .ok (some t')) (sameName : t.name = t'.name)
    (sameSchema : t.schema.bind (·.name) = t'.schema.bind (·.name)) : t = t' := by
  obtain ⟨-, called, stated⟩ := table_eq_some h
  obtain ⟨-, called', stated'⟩ := table_eq_some h'
  obtain rfl : name = name' := called ▸ called' ▸ sameName
  obtain rfl : schema = schema' := stated ▸ stated' ▸ sameSchema
  cases name with
  | none => cases h
  | some name =>
    obtain ⟨a, ha, same⟩ := Fallible.map_eq_ok.1 h
    obtain ⟨b, hb, same'⟩ := Fallible.map_eq_ok.1 h'
    rw [found_eq_ok] at ha hb
    rw [← Option.some.inj same, ← Option.some.inj same', Option.some.inj (ha.symm.trans hb)]

theorem columnsOf_eq_resolveAll (table : Option Table) (refs : List ColumnRef) (tag : Nat → Tag) :
    d.columnsOf table refs tag context =
      resolveAll (fun slot ref => d.column table ref (tag slot) context) refs := rfl

/-- The links between the declared objects are looked up among these objects. -/
structure Linked (d : Declared) : Prop where
  table : ∀ t ∈ d.tables, ∃ name context, d.schema name context = .ok t.schema
  column : ∀ c ∈ d.columns, ∃ schema name context, d.table schema name context = .ok c.relation
  index : ∀ i ∈ d.indexes, ∃ schema name context, d.table schema name context = .ok i.table

/-- What is found to be on a table by its name is on this table. -/
theorem eq_of_onTable {t : Table} {relation : Option Table}
    (ht : d.table schema name context = .ok (some t))
    (hr : d.table schema' name' context' = .ok relation) (on : onTable t relation = true) :
    relation = some t := by
  cases relation with
  | none => cases on
  | some r =>
    obtain ⟨sameName, sameSchema⟩ := Bool.and_eq_true_iff.1 on
    rw [table_unique hr ht (eq_of_beq sameName) (eq_of_beq sameSchema)]

namespace Linked

variable (hd : d.Linked)

include hd

/-- The schema that is stated with a table is the one that the table is in. -/
theorem schema_eq {t : Table} {y : Option Schema}
    (ht : d.table schema name context = .ok (some t)) (hy : d.schema schema context' = .ok y) :
    y = t.schema := by
  obtain ⟨mem, -, stated⟩ := table_eq_some ht
  obtain ⟨name', context'', h⟩ := hd.table t mem
  exact schema_unique hy h (by rw [schema_name hy, stated])

theorem column_spec {table : Option Table} (ht : d.table schema name context = .ok table)
    {ref : ColumnRef} {tag : Tag} {c : Column} (h : d.column table ref tag context' = .ok c) :
    c.relation = table ∧
      match ref with
      | .named name => c.name = some name ∧ (table.isSome → c ∈ d.columns)
      | .expression name .. => c.name = some name := by
  cases ref with
  | expression =>
    cases h
    exact ⟨rfl, rfl⟩
  | named called =>
    cases table with
    | none =>
      cases h
      exact ⟨rfl, rfl, nofun⟩
    | some t =>
      obtain ⟨mem, here⟩ := mem_of_findLast? (found_eq_ok.1 h)
      obtain ⟨on, named⟩ := Bool.and_eq_true_iff.1 here
      obtain ⟨_, _, _, relation⟩ := hd.column c mem
      exact ⟨eq_of_onTable ht relation on, eq_of_beq named, fun _ => mem⟩

theorem backingIndex_spec {table : Option Table} (ht : d.table schema name context = .ok table)
    {named : Option String} {index : Option Index}
    (h : d.backingIndex table named context' = .ok index) :
    index.isSome = (table.isSome && named.isSome) ∧
      ∀ i ∈ index, i ∈ d.indexes ∧ i.name = named ∧ i.table = table := by
  cases table with
  | none =>
    cases h
    exact ⟨rfl, nofun⟩
  | some t =>
    cases named with
    | none =>
      cases h
      exact ⟨rfl, nofun⟩
    | some named =>
      obtain ⟨i, mem, here, rfl⟩ := exists_of_found h
      obtain ⟨on, called⟩ := Bool.and_eq_true_iff.1 here
      obtain ⟨_, _, _, relation⟩ := hd.index i mem
      refine ⟨rfl, ?_⟩
      rintro _ ⟨⟩
      exact ⟨mem, eq_of_beq called, eq_of_onTable ht relation on⟩

end Linked

end Declared

/-! ## Sections -/

variable {D : Document} {origin : Nat}

namespace Sections

variable (x : Sections D origin)

/-- The objects that the last sections are resolved against. -/
def known : Declared := ⟨D.catalogObjects origin, x.schemas, x.tables, x.columns, x.indexes⟩

theorem linked_known : x.known.Linked where
  table t ht := by
    obtain ⟨e, -, _, step⟩ := mem_resolveAll x.resolveTables ht
    obtain ⟨y, hy, step⟩ := Fallible.bind_eq_ok.1 step
    exact ⟨e.schema, _, by rw [← Fallible.pure_eq_ok.1 step]; exact hy⟩
  column c hc := by
    obtain ⟨e, -, _, step⟩ := mem_resolveAll x.resolveColumns hc
    obtain ⟨t, ht, step⟩ := Fallible.bind_eq_ok.1 step
    exact ⟨e.schema, some e.table, _, by rw [← Fallible.pure_eq_ok.1 step]; exact ht⟩
  index i hi := by
    obtain ⟨e, -, _, step⟩ := mem_resolveAll x.resolveIndexes hi
    simp only [resolveIndex, Fallible.bind_eq_ok, Fallible.pure_eq_ok] at step
    obtain ⟨t, ht, _, -, _, -, rfl⟩ := step
    exact ⟨e.schema, e.table, _, ht⟩

section

variable {context context' : String} {schema name : Option String} {t : Option Table}

theorem leads_schema {y : Option Schema} (h : x.known.schema name context = .ok y) :
    x.snapshot.Leads .schema y name := by
  obtain ⟨set, spec⟩ := Declared.schema_spec h
  have mem {a : Schema} (ha : a ∈ x.schemas) : .schema a ∈ x.snapshot.objects := by
    simp [snapshot, ha]
  exact ⟨set, fun a ha => mem (spec a ha).1, fun a ha => (spec a ha).2⟩

theorem leads_table (h : x.known.table schema name context = .ok t) :
    x.snapshot.LeadsToTable t schema name := by
  obtain ⟨set, spec⟩ := Declared.table_spec h
  have mem {a : Table} (ha : a ∈ x.tables) : .table a ∈ x.snapshot.objects := by
    simp [snapshot, ha]
  exact ⟨⟨set, fun a ha => mem (spec a ha).1, fun a ha => (spec a ha).2.1⟩,
    fun a ha => (spec a ha).2.2⟩

theorem hasMembers (ht : x.known.table schema name context = .ok t) {refs : List ColumnRef}
    {tag : Nat → Tag} {columns : List Column}
    (h : x.known.columnsOf t refs tag context' = .ok columns) :
    x.snapshot.HasMembers t refs columns := by
  have mem {c : Column} (hc : c ∈ x.columns) : .column c ∈ x.snapshot.objects := by
    simp [snapshot, hc]
  rw [Declared.columnsOf_eq_resolveAll] at h
  refine forall₂_of_resolveAll h fun slot ref c step => ?_
  obtain ⟨relation, spec⟩ := x.linked_known.column_spec ht step
  refine ⟨relation, ?_⟩
  cases ref with
  | named => exact spec.imp_right fun own set => mem (own set)
  | expression => exact spec

theorem leads_backingIndex (ht : x.known.table schema name context = .ok t)
    {named : Option String} {index : Option Index}
    (h : x.known.backingIndex t named context' = .ok index) :
    x.snapshot.LeadsToIndex index t named := by
  obtain ⟨set, spec⟩ := x.linked_known.backingIndex_spec ht h
  have mem {i : Index} (hi : i ∈ x.indexes) : .index i ∈ x.snapshot.objects := by
    simp [snapshot, hi]
  exact ⟨set, fun i hi => mem (spec i hi).1, fun i hi => (spec i hi).2.1,
    fun i hi => (spec i hi).2.2⟩

theorem schema_of_table {y : Option Schema} (ht : x.known.table schema name context = .ok t)
    (hy : x.known.schema schema context' = .ok y) :
    ∀ a ∈ t, y = a.schema ∧ y.or (t.bind (·.schema)) = a.schema := by
  rintro a ⟨⟩
  obtain rfl := x.linked_known.schema_eq ht hy
  exact ⟨rfl, Option.or_self⟩

end

/-! ## Entries become objects -/

section

variable {position : Nat}

theorem becomes_schema {e : SchemaEntry} {y : Schema}
    (h : resolveSchema x.known origin position e = .ok y) :
    y.tag = .entry origin .schema position ∧ SchemaEntry.Becomes x.snapshot e y := by
  unfold resolveSchema at h
  split at h
  · next he =>
    cases h
    exact ⟨rfl, rfl, by simp [he], nofun, nofun⟩
  · next name he =>
    obtain ⟨link, look, h⟩ := Fallible.bind_eq_ok.1 h
    obtain ⟨c, mem, called, rfl⟩ := exists_of_found look
    obtain rfl := Fallible.pure_eq_ok.1 h
    have own : c ∈ D.catalogObjects origin := mem
    refine ⟨rfl, rfl, by simp [he], ?_, ?_⟩
    · rintro _ ⟨⟩
      simp [snapshot, own]
    · rintro _ ⟨⟩
      rw [he]
      exact eq_of_beq called

theorem becomes_table {e : TableEntry} {t : Table}
    (h : resolveTable x.known origin position e = .ok t) :
    t.tag = .entry origin .table position ∧ TableEntry.Becomes x.snapshot e t := by
  simp only [resolveTable, Fallible.bind_eq_ok, Fallible.pure_eq_ok] at h
  obtain ⟨y, hy, rfl⟩ := h
  exact ⟨rfl, rfl, x.leads_schema hy⟩

theorem becomes_column {e : ColumnEntry} {c : Column}
    (h : resolveColumn x.known origin position e = .ok c) :
    c.tag = .entry origin .column position ∧ ColumnEntry.Becomes x.snapshot e c := by
  simp only [resolveColumn, Fallible.bind_eq_ok, Fallible.pure_eq_ok] at h
  obtain ⟨t, ht, rfl⟩ := h
  exact ⟨rfl, rfl, x.leads_table ht⟩

theorem becomes_index {e : IndexEntry} {i : Index}
    (h : resolveIndex x.known origin position e = .ok i) :
    i.tag = .entry origin .index position ∧ IndexEntry.Becomes x.snapshot e i := by
  simp only [resolveIndex, Fallible.bind_eq_ok, Fallible.pure_eq_ok] at h
  obtain ⟨t, ht, columns, hc, y, hy, rfl⟩ := h
  exact ⟨rfl, rfl, x.leads_table ht, x.leads_schema hy, x.schema_of_table ht hy,
    x.hasMembers ht hc⟩

theorem becomes_primaryKey {e : PrimaryKeyEntry} {k : PrimaryKey}
    (h : resolvePrimaryKey x.known origin position e = .ok k) :
    k.tag = .entry origin .primaryKey position ∧ PrimaryKeyEntry.Becomes x.snapshot e k := by
  simp only [resolvePrimaryKey, Fallible.bind_eq_ok, Fallible.pure_eq_ok] at h
  obtain ⟨t, ht, columns, hc, i, hi, rfl⟩ := h
  exact ⟨rfl, rfl, x.leads_table ht, x.hasMembers ht hc, x.leads_backingIndex ht hi⟩

theorem becomes_foreignKey {e : ForeignKeyEntry} {k : ForeignKey}
    (h : resolveForeignKey x.known origin position e = .ok k) :
    k.tag = .entry origin .foreignKey position ∧ ForeignKeyEntry.Becomes x.snapshot e k := by
  simp only [resolveForeignKey, Fallible.bind_eq_ok, Fallible.pure_eq_ok] at h
  obtain ⟨t, ht, r, hr, columns, hc, referenced, hrc, i, hi, rfl⟩ := h
  exact ⟨rfl, rfl, x.leads_table ht, x.leads_table hr, x.hasMembers ht hc, x.hasMembers hr hrc,
    x.leads_backingIndex ht hi⟩

theorem becomes_uniqueConstraint {e : UniqueConstraintEntry} {u : UniqueConstraint}
    (h : resolveUniqueConstraint x.known origin position e = .ok u) :
    u.tag = .entry origin .uniqueConstraint position ∧
      UniqueConstraintEntry.Becomes x.snapshot e u := by
  simp only [resolveUniqueConstraint, Fallible.bind_eq_ok, Fallible.pure_eq_ok] at h
  obtain ⟨t, ht, columns, hc, i, hi, y, hy, rfl⟩ := h
  exact ⟨rfl, rfl, x.leads_table ht, x.leads_schema hy, x.schema_of_table ht hy,
    x.hasMembers ht hc, x.leads_backingIndex ht hi⟩

end

end Sections

/-- The objects of a section are instances of their own. -/
theorem nodup_tag_of_resolveAll {α β : Type} {k : Kind} {wrap : β → Object}
    {resolve : Nat → α → Except UnresolvedReference β} {entries : List α} {objects : List β}
    (h : resolveAll resolve entries = .ok objects)
    (tag : ∀ position e b, resolve position e = .ok b →
      (wrap b).tag = .entry origin k position) : ((objects.map wrap).map (·.tag)).Nodup := by
  -- the tags are those of the positions, which are all different
  have tags : (entries.zipIdx.map Prod.snd).map (Tag.entry origin k) =
      objects.map fun b => (wrap b).tag := by
    rw [← List.forall₂_eq_eq_eq, List.map_map, List.forall₂_map_left_iff,
      List.forall₂_map_right_iff]
    exact (Fallible.mapM_eq_ok.1 h).imp fun e b hb => (tag e.2 e.1 b hb).symm
  have positions : (entries.zipIdx.map Prod.snd).Nodup := by
    rw [List.zipIdx_map_snd]
    exact List.nodup_range'
  have injective : Function.Injective (Tag.entry origin k) := fun _ _ same =>
    (Tag.entry.inj same).2.2
  rw [List.map_map]
  exact tags ▸ List.Nodup.map injective positions

/-- The objects that a section resolves to list what its entries become. -/
theorem lists_of_resolveAll {α β : Type} {s : Snapshot} {k : Kind} {wrap : β → Object}
    {resolve : Nat → α → Except UnresolvedReference β} {becomes : α → β → Prop} {entries : List α}
    {objects : List β} (h : resolveAll resolve entries = .ok objects)
    (section_eq : s.ofKind k = objects.map wrap)
    (step : ∀ position e b, resolve position e = .ok b →
      (wrap b).tag = .entry origin k position ∧ becomes e b) :
    Lists s k wrap becomes entries where
  objects := by
    rw [section_eq, List.forall₂_map_right_iff]
    exact forall₂_of_resolveAll h fun position e b hb => ⟨b, rfl, (step position e b hb).2⟩
  instances := by
    rw [section_eq]
    exact nodup_tag_of_resolveAll h fun position e b hb => (step position e b hb).1

theorem resolveAll_catalogs :
    resolveAll (fun position e => pure (resolveCatalog origin position e)) D.catalogs =
      .ok (D.catalogObjects origin) :=
  List.mapM_pure

/-- No object of a document is listed twice. -/
theorem nodup_ofKind {s : Snapshot} (h : D.resolve origin = .ok s) (k : Kind) :
    (s.ofKind k).Nodup := by
  obtain ⟨x, rfl⟩ := resolve_eq_ok.1 h
  apply List.Nodup.of_map (·.tag)
  rw [x.ofKind_snapshot]
  cases k with
  | catalog =>
    apply nodup_tag_of_resolveAll resolveAll_catalogs
    rintro position e b ⟨⟩
    rfl
  | schema => exact nodup_tag_of_resolveAll x.resolveSchemas fun _ _ _ h => (x.becomes_schema h).1
  | table => exact nodup_tag_of_resolveAll x.resolveTables fun _ _ _ h => (x.becomes_table h).1
  | column => exact nodup_tag_of_resolveAll x.resolveColumns fun _ _ _ h => (x.becomes_column h).1
  | index => exact nodup_tag_of_resolveAll x.resolveIndexes fun _ _ _ h => (x.becomes_index h).1
  | primaryKey =>
    exact nodup_tag_of_resolveAll x.resolvePrimaryKeys fun _ _ _ h => (x.becomes_primaryKey h).1
  | foreignKey =>
    exact nodup_tag_of_resolveAll x.resolveForeignKeys fun _ _ _ h => (x.becomes_foreignKey h).1
  | uniqueConstraint =>
    exact nodup_tag_of_resolveAll x.resolveUniqueConstraints
      fun _ _ _ h => (x.becomes_uniqueConstraint h).1

/-- A document that resolves makes one object of every entry, with every link to the object that
the entry names. -/
theorem linked_of_resolve {s : Snapshot} (h : D.resolve origin = .ok s) : D.Linked s := by
  obtain ⟨x, rfl⟩ := resolve_eq_ok.1 h
  exact {
    catalogs := lists_of_resolveAll resolveAll_catalogs (x.ofKind_snapshot .catalog)
      fun _ _ _ step => by
        cases step
        exact ⟨rfl, rfl⟩
    schemas := lists_of_resolveAll x.resolveSchemas (x.ofKind_snapshot .schema)
      fun _ _ _ => x.becomes_schema
    tables := lists_of_resolveAll x.resolveTables (x.ofKind_snapshot .table)
      fun _ _ _ => x.becomes_table
    columns := lists_of_resolveAll x.resolveColumns (x.ofKind_snapshot .column)
      fun _ _ _ => x.becomes_column
    indexes := lists_of_resolveAll x.resolveIndexes (x.ofKind_snapshot .index)
      fun _ _ _ => x.becomes_index
    primaryKeys := lists_of_resolveAll x.resolvePrimaryKeys (x.ofKind_snapshot .primaryKey)
      fun _ _ _ => x.becomes_primaryKey
    foreignKeys := lists_of_resolveAll x.resolveForeignKeys (x.ofKind_snapshot .foreignKey)
      fun _ _ _ => x.becomes_foreignKey
    uniqueConstraints := lists_of_resolveAll x.resolveUniqueConstraints
      (x.ofKind_snapshot .uniqueConstraint) fun _ _ _ => x.becomes_uniqueConstraint }

/-- A document that declares a table, its column and its index twice. -/
def ordersTwice : Document where
  productName := none
  productVersion := none
  catalogs := [⟨"shop", true⟩]
  schemas := [⟨"sales", some "shop", false⟩]
  tables := [⟨"orders", some "sales", none, none, none, []⟩,
    ⟨"orders", some "sales", some "again", none, none, []⟩]
  columns := List.replicate 2
    { table := "orders", schema := some "sales", name := "id", type := none, nullable := none,
      defaultValue := none, remarks := none, order := none, computed := none, descending := none,
      autoIncrement := none, attributes := [] }
  indexes := List.replicate 2
    { name := some "orders_ix", table := some "orders", schema := some "sales",
      columns := [.named "id", .expression "lower(id)" true false], unique := none,
      clustered := none, attributes := [] }
  primaryKeys :=
    [⟨some "orders_pk", some "orders", some "sales", [.named "id"], some "orders_ix", []⟩]
  foreignKeys := []
  uniqueConstraints := []

theorem linked_of_resolve_ordersTwice :
    ∃ s, ordersTwice.resolve 0 = .ok s ∧ ordersTwice.Linked s :=
  ⟨_, rfl, linked_of_resolve rfl⟩

end Document

end SchemaDelta

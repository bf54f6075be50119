import Mathlib.Data.List.Find
import Mathlib.Data.Set.Function
import SchemaDelta.Proofs.Linked

/-!
# Recasting objects

Recasting gives the instance that another load has in the place of an object when the
schemas of the document go by other names: every part and every link keeps what it holds,
but tags have another origin, and schemas are renamed wherever a link leads to them. Only
the names of schemas change, and names are looked up by name, so a document resolves under
other names of its schemas as under their own, as long as different schemas keep different
names.

## Main definitions

* `Object.recast` — the object as another origin has it, with other names of schemas.
* `Document.renameSchemas` — the document with other names of schemas.
-/

namespace SchemaDelta

/-! ## Recast objects -/

def Tag.moveTo (origin : Nat) : Tag → Tag
  | entry _ kind position => entry origin kind position
  | listed _ owner position list slot => listed origin owner position list slot

def Catalog.moveTo (origin : Nat) (c : Catalog) : Catalog :=
  { c with tag := c.tag.moveTo origin }

section

variable (origin : Nat) (ν : String → String)

def Schema.recast (s : Schema) : Schema :=
  { s with
    tag := s.tag.moveTo origin, name := s.name.map ν, catalog := s.catalog.map (·.moveTo origin) }

def Table.recast (t : Table) : Table :=
  { t with tag := t.tag.moveTo origin, schema := t.schema.map (·.recast origin ν) }

def Column.recast (c : Column) : Column :=
  { c with tag := c.tag.moveTo origin, relation := c.relation.map (·.recast origin ν) }

def Index.recast (i : Index) : Index :=
  { i with
    tag := i.tag.moveTo origin, table := i.table.map (·.recast origin ν)
    ownSchema := i.ownSchema.map (·.recast origin ν)
    columns := i.columns.map (·.recast origin ν) }

def PrimaryKey.recast (k : PrimaryKey) : PrimaryKey :=
  { k with
    tag := k.tag.moveTo origin, table := k.table.map (·.recast origin ν)
    columns := k.columns.map (·.recast origin ν)
    backingIndex := k.backingIndex.map (·.recast origin ν) }

def ForeignKey.recast (k : ForeignKey) : ForeignKey :=
  { k with
    tag := k.tag.moveTo origin, foreignTable := k.foreignTable.map (·.recast origin ν)
    foreignColumns := k.foreignColumns.map (·.recast origin ν)
    primaryTable := k.primaryTable.map (·.recast origin ν)
    primaryColumns := k.primaryColumns.map (·.recast origin ν)
    backingIndex := k.backingIndex.map (·.recast origin ν) }

def UniqueConstraint.recast (u : UniqueConstraint) : UniqueConstraint :=
  { u with
    tag := u.tag.moveTo origin, table := u.table.map (·.recast origin ν)
    ownSchema := u.ownSchema.map (·.recast origin ν)
    columns := u.columns.map (·.recast origin ν)
    backingIndex := u.backingIndex.map (·.recast origin ν) }

/-- The object as another origin has it, with other names of schemas. -/
def Object.recast : Object → Object
  | catalog o => catalog (o.moveTo origin)
  | schema o => schema (o.recast origin ν)
  | table o => table (o.recast origin ν)
  | column o => column (o.recast origin ν)
  | index o => index (o.recast origin ν)
  | primaryKey o => primaryKey (o.recast origin ν)
  | foreignKey o => foreignKey (o.recast origin ν)
  | uniqueConstraint o => uniqueConstraint (o.recast origin ν)

end

namespace Document

section

variable (ν : String → String)

def SchemaEntry.rename (e : SchemaEntry) : SchemaEntry := { e with name := ν e.name }

def TableEntry.rename (e : TableEntry) : TableEntry := { e with schema := e.schema.map ν }

def ColumnEntry.rename (e : ColumnEntry) : ColumnEntry := { e with schema := e.schema.map ν }

def IndexEntry.rename (e : IndexEntry) : IndexEntry := { e with schema := e.schema.map ν }

def PrimaryKeyEntry.rename (e : PrimaryKeyEntry) : PrimaryKeyEntry :=
  { e with schema := e.schema.map ν }

def ForeignKeyEntry.rename (e : ForeignKeyEntry) : ForeignKeyEntry :=
  { e with schema := e.schema.map ν, referencedSchema := e.referencedSchema.map ν }

def UniqueConstraintEntry.rename (e : UniqueConstraintEntry) : UniqueConstraintEntry :=
  { e with schema := e.schema.map ν }

/-- The document with other names of schemas, where they are declared and wherever one is stated. -/
def renameSchemas (D : Document) : Document :=
  { D with
    schemas := D.schemas.map (·.rename ν)
    tables := D.tables.map (·.rename ν)
    columns := D.columns.map (·.rename ν)
    indexes := D.indexes.map (·.rename ν)
    primaryKeys := D.primaryKeys.map (·.rename ν)
    foreignKeys := D.foreignKeys.map (·.rename ν)
    uniqueConstraints := D.uniqueConstraints.map (·.rename ν) }

end

/-! ## Looking up recast objects -/

theorem findLast?_map {α β : Type} {g : α → β} {p : β → Bool} {q : α → Bool} {xs : List α}
    (h : ∀ x ∈ xs, p (g x) = q x) : findLast? p (xs.map g) = (findLast? q xs).map g := by
  have same : xs.reverse.find? (p ∘ g) = xs.reverse.find? q :=
    List.find?_congr fun x hx => h x (List.mem_reverse.1 hx)
  rw [findLast?, ← List.map_reverse, List.find?_map, same, findLast?]

/-- What is found stays found among the images of the objects. -/
theorem follows_found {α β : Type} {g : α → β} {p : β → Bool} {q : α → Bool} {xs : List α}
    (h : ∀ x ∈ xs, p (g x) = q x) (context context' : String) (k : Kind) (name name' : String) :
    Fallible.Follows g (found (findLast? q xs) context k name)
      (found (findLast? p (xs.map g)) context' k name') := by
  intro a ha
  rw [findLast?_map h, found_eq_ok.1 ha]
  rfl

namespace Declared

variable {d : Declared} {o o' : Nat} {ν : String → String} {context context' : String}

/-- The declared objects as another origin has them, with other names of schemas. -/
def recast (o : Nat) (ν : String → String) (d : Declared) : Declared where
  catalogs := d.catalogs.map (·.moveTo o)
  schemas := d.schemas.map (·.recast o ν)
  tables := d.tables.map (·.recast o ν)
  columns := d.columns.map (·.recast o ν)
  indexes := d.indexes.map (·.recast o ν)

/-- Links lead to declared objects, and different schemas keep different names. -/
structure Renames (d : Declared) (ν : String → String) : Prop extends d.Linked where
  injective : Set.InjOn ν {n | ∃ y ∈ d.schemas, y.name = some n}

/-- The schema is declared, if one is stated. -/
def Knows (d : Declared) (name : Option String) : Prop :=
  ∀ n ∈ name, ∃ y ∈ d.schemas, y.name = some n

theorem table_mem {schema name : Option String} {t : Option Table}
    (h : d.table schema name context = .ok t) : ∀ a ∈ t, a ∈ d.tables :=
  fun a ha => ((table_spec h).2 a ha).1

theorem knows_of_mem {y : Schema} (hy : y ∈ d.schemas) : d.Knows y.name := fun _ hn => ⟨y, hy, hn⟩

theorem knows_of_schema {y : Option Schema} {name : Option String}
    (h : d.schema name context = .ok y) : d.Knows (y.bind (·.name)) := by
  cases y with
  | none => nofun
  | some y => exact knows_of_mem ((schema_spec h).2 y rfl).1

theorem name_bind_recast (y : Option Schema) :
    (y.map (·.recast o ν)).bind (·.name) = (y.bind (·.name)).map ν := by
  cases y <;> rfl

namespace Renames

variable (h : d.Renames ν) {schema name : Option String}

include h

theorem beq_map {m n : Option String} (hm : d.Knows m) (hn : d.Knows n) :
    (m.map ν == n.map ν) = (m == n) := by
  cases m with
  | none => cases n <;> rfl
  | some m =>
    cases n with
    | none => rfl
    | some n =>
      have same : ν m = ν n ↔ m = n := h.injective.eq_iff (hm m rfl) (hn n rfl)
      simp [beq_eq_decide, same]

theorem knows_of_table {t : Table} (ht : t ∈ d.tables) : d.Knows (t.schema.bind (·.name)) := by
  obtain ⟨_, _, link⟩ := h.table t ht
  exact knows_of_schema link

theorem table_of_column {c : Column} (hc : c ∈ d.columns) : ∀ t ∈ c.relation, t ∈ d.tables := by
  obtain ⟨_, _, _, link⟩ := h.column c hc
  exact table_mem link

theorem table_of_index {i : Index} (hi : i ∈ d.indexes) : ∀ t ∈ i.table, t ∈ d.tables := by
  obtain ⟨_, _, _, link⟩ := h.index i hi
  exact table_mem link

theorem isTable_recast {t : Table} (ht : t ∈ d.tables) (hs : d.Knows schema) (name : String) :
    isTable (schema.map ν) name (t.recast o ν) = isTable schema name t := by
  simp only [isTable, Table.recast, name_bind_recast, h.beq_map (h.knows_of_table ht) hs]

theorem onTable_recast {t : Table} (ht : t ∈ d.tables) {relation : Option Table}
    (hr : ∀ r ∈ relation, r ∈ d.tables) :
    onTable (t.recast o ν) (relation.map (·.recast o ν)) = onTable t relation := by
  cases relation with
  | none => rfl
  | some r =>
    have same := h.beq_map (h.knows_of_table (hr r rfl)) (h.knows_of_table ht)
    simp only [onTable, Option.map_some, Table.recast, name_bind_recast, same]

theorem schema_recast :
    Fallible.Follows (Option.map (·.recast o ν)) (d.schema name context)
      ((d.recast o ν).schema (name.map ν) context') := by
  cases name with
  | none => exact .pure none
  | some name =>
    intro y hy
    obtain ⟨z, mem, called, rfl⟩ := exists_of_found hy
    -- The name that was looked up is declared, and `ν` tells it apart from every other one.
    have stated : d.Knows (some name) := eq_of_beq called ▸ knows_of_mem mem
    have look := follows_found (g := Schema.recast o ν) (p := fun y => isCalled (ν name) y.name)
      (q := fun y => isCalled name y.name) (fun y hy => h.beq_map (knows_of_mem hy) stated)
      context context' .schema name (ν name)
    have linked : Fallible.Follows (Option.map (·.recast o ν)) (d.schema (some name) context)
        ((d.recast o ν).schema (some (ν name)) context') := look.map fun _ => rfl
    exact linked _ hy

theorem table_recast :
    Fallible.Follows (Option.map (·.recast o ν)) (d.table schema name context)
      ((d.recast o ν).table (schema.map ν) name context') := by
  cases name with
  | none => exact .pure none
  | some name =>
    intro t ht
    obtain ⟨u, mem, -, rfl⟩ := exists_of_found ht
    have stated : d.Knows schema := (table_eq_some ht).2.2 ▸ h.knows_of_table mem
    have look := follows_found (g := Table.recast o ν)
      (fun t ht => h.isTable_recast ht stated name) context context' .table
      (qualified schema name) (qualified (schema.map ν) name)
    have linked : Fallible.Follows (Option.map (·.recast o ν))
        (d.table schema (some name) context)
        ((d.recast o ν).table (schema.map ν) (some name) context') := look.map fun _ => rfl
    exact linked _ ht

/-- A column that is listed for a table stays the one that is listed. -/
theorem column_recast {table : Option Table} (hd : ∀ t ∈ table, t ∈ d.tables) (ref : ColumnRef)
    (tag : Tag) :
    Fallible.Follows (·.recast o ν) (d.column table ref tag context)
      ((d.recast o ν).column (table.map (·.recast o ν)) ref (tag.moveTo o) context') := by
  cases ref with
  | expression =>
    rintro c ⟨⟩
    rfl
  | named name =>
    cases table with
    | none =>
      rintro c ⟨⟩
      rfl
    | some t =>
      have on (c : Column) (hc : c ∈ d.columns) : onTable (t.recast o ν) (c.recast o ν).relation =
          onTable t c.relation :=
        h.onTable_recast (hd t rfl) (h.table_of_column hc)
      exact follows_found (g := Column.recast o ν)
        (p := fun c => onTable (t.recast o ν) c.relation && isCalled name c.name)
        (fun c hc => by rw [on c hc]; rfl) context context' .column _ _

theorem columnsOf_recast {table : Option Table} (hd : ∀ t ∈ table, t ∈ d.tables)
    (refs : List ColumnRef) (owner : Kind) (position list : Nat) :
    Fallible.Follows (List.map (·.recast o' ν))
      (d.columnsOf table refs (.listed o owner position list) context)
      ((d.recast o' ν).columnsOf (table.map (·.recast o' ν)) refs (.listed o' owner position list)
        context') := by
  have members : Fallible.Follows (List.map (·.recast o' ν))
      (refs.zipIdx.mapM fun x => d.column table x.1 (.listed o owner position list x.2) context)
      ((refs.zipIdx.map id).mapM fun x => (d.recast o' ν).column (table.map (·.recast o' ν)) x.1
        (.listed o' owner position list x.2) context') :=
    .mapM (fun x => h.column_recast hd x.1 (.listed o owner position list x.2)) _
  rwa [List.map_id] at members

theorem backingIndex_recast {table : Option Table} (hd : ∀ t ∈ table, t ∈ d.tables)
    (name : Option String) :
    Fallible.Follows (Option.map (·.recast o ν)) (d.backingIndex table name context)
      ((d.recast o ν).backingIndex (table.map (·.recast o ν)) name context') := by
  cases table with
  | none => exact .pure none
  | some t =>
    cases name with
    | none => exact .pure none
    | some name =>
      have on (i : Index) (hi : i ∈ d.indexes) : onTable (t.recast o ν) (i.recast o ν).table =
          onTable t i.table :=
        h.onTable_recast (hd t rfl) (h.table_of_index hi)
      have look := follows_found (g := Index.recast o ν)
        (p := fun i => onTable (t.recast o ν) i.table && isCalled name i.name)
        (fun i hi => by rw [on i hi]) context context' .index name name
      exact look.map fun _ => rfl

end Renames

end Declared

/-! ## Resolving under other names -/

section

variable {d : Declared} {o o' position : Nat} {ν : String → String}

theorem resolveSchema_recast (e : SchemaEntry) :
    Fallible.Follows (·.recast o' ν) (resolveSchema d o position e)
      (resolveSchema (d.recast o' ν) o' position (e.rename ν)) := by
  unfold resolveSchema SchemaEntry.rename
  cases e.catalog with
  | none => exact .pure _
  | some name =>
    have linked : Fallible.Follows (Option.map (Catalog.moveTo o'))
        ((found (findLast? (fun c => isCalled name c.name) d.catalogs)
          (entryText "schema" (some e.name)) .catalog name).map some)
        ((found (findLast? (fun c => isCalled name c.name) (d.catalogs.map (·.moveTo o')))
          (entryText "schema" (some (ν e.name))) .catalog name).map some) :=
      .map (g := Catalog.moveTo o') (follows_found (fun _ _ => by rfl) _ _ _ _ _) fun _ => rfl
    exact linked.bind fun _ _ => .pure _

variable (h : d.Renames ν)

include h

theorem resolveTable_recast (e : TableEntry) :
    Fallible.Follows (·.recast o' ν) (resolveTable d o position e)
      (resolveTable (d.recast o' ν) o' position (e.rename ν)) :=
  h.schema_recast.bind fun _ _ => .pure _

theorem resolveColumn_recast (e : ColumnEntry) :
    Fallible.Follows (·.recast o' ν) (resolveColumn d o position e)
      (resolveColumn (d.recast o' ν) o' position (e.rename ν)) :=
  h.table_recast.bind fun _ _ => .pure _

theorem resolveIndex_recast (e : IndexEntry) :
    Fallible.Follows (·.recast o' ν) (resolveIndex d o position e)
      (resolveIndex (d.recast o' ν) o' position (e.rename ν)) :=
  h.table_recast.bind fun _ ht =>
    (h.columnsOf_recast (Declared.table_mem ht) _ _ _ _).bind fun _ _ =>
      h.schema_recast.bind fun _ _ => .pure _

theorem resolvePrimaryKey_recast (e : PrimaryKeyEntry) :
    Fallible.Follows (·.recast o' ν) (resolvePrimaryKey d o position e)
      (resolvePrimaryKey (d.recast o' ν) o' position (e.rename ν)) :=
  h.table_recast.bind fun _ ht =>
    (h.columnsOf_recast (Declared.table_mem ht) _ _ _ _).bind fun _ _ =>
      (h.backingIndex_recast (Declared.table_mem ht) _).bind fun _ _ => .pure _

theorem resolveForeignKey_recast (e : ForeignKeyEntry) :
    Fallible.Follows (·.recast o' ν) (resolveForeignKey d o position e)
      (resolveForeignKey (d.recast o' ν) o' position (e.rename ν)) :=
  h.table_recast.bind fun _ ht => h.table_recast.bind fun _ hr =>
    (h.columnsOf_recast (Declared.table_mem ht) _ _ _ _).bind fun _ _ =>
      (h.columnsOf_recast (Declared.table_mem hr) _ _ _ _).bind fun _ _ =>
        (h.backingIndex_recast (Declared.table_mem ht) _).bind fun _ _ => .pure _

theorem resolveUniqueConstraint_recast (e : UniqueConstraintEntry) :
    Fallible.Follows (·.recast o' ν) (resolveUniqueConstraint d o position e)
      (resolveUniqueConstraint (d.recast o' ν) o' position (e.rename ν)) :=
  h.table_recast.bind fun _ ht =>
    (h.columnsOf_recast (Declared.table_mem ht) _ _ _ _).bind fun _ _ =>
      (h.backingIndex_recast (Declared.table_mem ht) _).bind fun _ _ =>
        h.schema_recast.bind fun _ _ => .pure _

end

/-- A section resolves under other names when its entries do, one by one. -/
theorem resolveAll_recast {α β γ δ : Type} {f : α → γ} {g : β → δ}
    {r : Nat → α → Except UnresolvedReference β} {r' : Nat → γ → Except UnresolvedReference δ}
    (h : ∀ position e, Fallible.Follows g (r position e) (r' position (f e))) {entries : List α}
    {objects : List β} (ho : resolveAll r entries = .ok objects) :
    resolveAll r' (entries.map f) = .ok (objects.map g) := by
  have all : Fallible.Follows (List.map g) (entries.zipIdx.mapM fun x => r x.2 x.1)
      ((entries.zipIdx.map (Prod.map f id)).mapM fun x => r' x.2 x.1) :=
    .mapM (fun x => h x.2 x.1) _
  rw [resolveAll, List.zipIdx_map]
  exact all objects ho

variable {D : Document} {o o' : Nat} {ν : String → String}

theorem catalogObjects_recast (D : Document) (ν : String → String) (o o' : Nat) :
    (D.renameSchemas ν).catalogObjects o' = (D.catalogObjects o).map (·.moveTo o') := by
  simp only [catalogObjects, List.map_map]
  rfl

namespace Sections

variable (x : Sections D o)

theorem renames (hν : Set.InjOn ν {n | ∃ e ∈ D.schemas, e.name = n}) : x.known.Renames ν where
  toLinked := x.linked_known
  injective := hν.mono fun n ⟨y, hy, named⟩ => by
    obtain ⟨e, he, _, step⟩ := mem_resolveAll x.resolveSchemas hy
    exact ⟨e, he, Option.some.inj ((x.becomes_schema step).2.name.symm.trans named)⟩

/-- The sections of a document with other names of schemas, as another origin has them. -/
def recast (hν : Set.InjOn ν {n | ∃ e ∈ D.schemas, e.name = n}) (o' : Nat) :
    Sections (D.renameSchemas ν) o' where
  schemas := x.schemas.map (·.recast o' ν)
  tables := x.tables.map (·.recast o' ν)
  columns := x.columns.map (·.recast o' ν)
  indexes := x.indexes.map (·.recast o' ν)
  primaryKeys := x.primaryKeys.map (·.recast o' ν)
  foreignKeys := x.foreignKeys.map (·.recast o' ν)
  uniqueConstraints := x.uniqueConstraints.map (·.recast o' ν)
  resolveSchemas := by
    rw [catalogObjects_recast D ν o o']
    exact resolveAll_recast (fun _ => resolveSchema_recast) x.resolveSchemas
  resolveTables := by
    rw [catalogObjects_recast D ν o o']
    exact resolveAll_recast (fun _ => resolveTable_recast (x.renames hν)) x.resolveTables
  resolveColumns := by
    rw [catalogObjects_recast D ν o o']
    exact resolveAll_recast (fun _ => resolveColumn_recast (x.renames hν)) x.resolveColumns
  resolveIndexes := by
    rw [catalogObjects_recast D ν o o']
    exact resolveAll_recast (fun _ => resolveIndex_recast (x.renames hν)) x.resolveIndexes
  resolvePrimaryKeys := by
    rw [catalogObjects_recast D ν o o']
    exact resolveAll_recast (fun _ => resolvePrimaryKey_recast (x.renames hν)) x.resolvePrimaryKeys
  resolveForeignKeys := by
    rw [catalogObjects_recast D ν o o']
    exact resolveAll_recast (fun _ => resolveForeignKey_recast (x.renames hν)) x.resolveForeignKeys
  resolveUniqueConstraints := by
    rw [catalogObjects_recast D ν o o']
    exact resolveAll_recast (fun _ => resolveUniqueConstraint_recast (x.renames hν))
      x.resolveUniqueConstraints

theorem objects_recast (hν : Set.InjOn ν {n | ∃ e ∈ D.schemas, e.name = n}) (o' : Nat) :
    (x.recast hν o').snapshot.objects = x.snapshot.objects.map (·.recast o' ν) := by
  simp only [snapshot, recast, catalogObjects_recast D ν o o', List.map_append, List.map_map]
  rfl

end Sections

/-- A document that resolves also does with other names of its schemas, as long as different ones
keep different names, and under any origin. -/
theorem resolve_renameSchemas {s : Snapshot} (h : D.resolve o = .ok s)
    (hν : Set.InjOn ν {n | ∃ e ∈ D.schemas, e.name = n}) (o' : Nat) :
    ∃ s', (D.renameSchemas ν).resolve o' = .ok s' ∧
      s'.objects = s.objects.map (·.recast o' ν) := by
  obtain ⟨x, rfl⟩ := resolve_eq_ok.1 h
  exact ⟨_, resolve_eq_ok.2 ⟨x.recast hν o', rfl⟩, x.objects_recast hν o'⟩

end Document

end SchemaDelta

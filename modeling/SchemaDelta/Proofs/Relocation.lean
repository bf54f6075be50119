import SchemaDelta.Proofs.Recasting

/-!
# Relocating objects

Relocating an object gives the instance that another load of the same document has in its
place: every part and every link keeps what it holds, and only the origin of the tags is
another. It is recast, with schemas keeping their names, so resolving a document under
another origin gives its objects relocated there.

## Main definitions

* `Object.moveTo` — the object as another origin has it.
-/

namespace SchemaDelta

/-! ## Relocated objects -/

def Tag.origin : Tag → Nat
  | entry origin .. => origin
  | listed origin .. => origin

def Schema.moveTo (origin : Nat) (s : Schema) : Schema :=
  { s with tag := s.tag.moveTo origin, catalog := s.catalog.map (·.moveTo origin) }

def Table.moveTo (origin : Nat) (t : Table) : Table :=
  { t with tag := t.tag.moveTo origin, schema := t.schema.map (·.moveTo origin) }

def Column.moveTo (origin : Nat) (c : Column) : Column :=
  { c with tag := c.tag.moveTo origin, relation := c.relation.map (·.moveTo origin) }

def Index.moveTo (origin : Nat) (i : Index) : Index :=
  { i with
    tag := i.tag.moveTo origin, table := i.table.map (·.moveTo origin)
    ownSchema := i.ownSchema.map (·.moveTo origin), columns := i.columns.map (·.moveTo origin) }

def PrimaryKey.moveTo (origin : Nat) (k : PrimaryKey) : PrimaryKey :=
  { k with
    tag := k.tag.moveTo origin, table := k.table.map (·.moveTo origin)
    columns := k.columns.map (·.moveTo origin)
    backingIndex := k.backingIndex.map (·.moveTo origin) }

def ForeignKey.moveTo (origin : Nat) (k : ForeignKey) : ForeignKey :=
  { k with
    tag := k.tag.moveTo origin, foreignTable := k.foreignTable.map (·.moveTo origin)
    foreignColumns := k.foreignColumns.map (·.moveTo origin)
    primaryTable := k.primaryTable.map (·.moveTo origin)
    primaryColumns := k.primaryColumns.map (·.moveTo origin)
    backingIndex := k.backingIndex.map (·.moveTo origin) }

def UniqueConstraint.moveTo (origin : Nat) (u : UniqueConstraint) : UniqueConstraint :=
  { u with
    tag := u.tag.moveTo origin, table := u.table.map (·.moveTo origin)
    ownSchema := u.ownSchema.map (·.moveTo origin), columns := u.columns.map (·.moveTo origin)
    backingIndex := u.backingIndex.map (·.moveTo origin) }

/-! ## Relocation as recasting -/

section

variable {origin : Nat}

theorem Schema.moveTo_eq (s : Schema) : s.moveTo origin = s.recast origin id := by
  simp [moveTo, recast]

theorem Table.moveTo_eq (t : Table) : t.moveTo origin = t.recast origin id := by
  simp only [moveTo, recast, Schema.moveTo_eq]

theorem Column.moveTo_eq (c : Column) : c.moveTo origin = c.recast origin id := by
  simp only [moveTo, recast, Table.moveTo_eq]

theorem Index.moveTo_eq (i : Index) : i.moveTo origin = i.recast origin id := by
  simp only [moveTo, recast, Table.moveTo_eq, Schema.moveTo_eq, Column.moveTo_eq]

end

namespace Object

/-- The object as another origin has it. -/
def moveTo (origin : Nat) : Object → Object
  | catalog o => catalog (o.moveTo origin)
  | schema o => schema (o.moveTo origin)
  | table o => table (o.moveTo origin)
  | column o => column (o.moveTo origin)
  | index o => index (o.moveTo origin)
  | primaryKey o => primaryKey (o.moveTo origin)
  | foreignKey o => foreignKey (o.moveTo origin)
  | uniqueConstraint o => uniqueConstraint (o.moveTo origin)

variable {origin : Nat} {o : Object}

theorem moveTo_eq (o : Object) : o.moveTo origin = o.recast origin id := by
  cases o <;>
    simp only [moveTo, recast, Schema.moveTo_eq, Table.moveTo_eq, Column.moveTo_eq,
      Index.moveTo_eq, PrimaryKey.moveTo, PrimaryKey.recast, ForeignKey.moveTo,
      ForeignKey.recast, UniqueConstraint.moveTo, UniqueConstraint.recast]

@[simp] theorem kind_moveTo : (o.moveTo origin).kind = o.kind := by cases o <;> rfl

@[simp] theorem display_moveTo : (o.moveTo origin).display = o.display := by
  cases o with
  | table t => cases ht : t.schema <;> simp [moveTo, Table.moveTo, display, ht, Schema.moveTo]
  | column c =>
    cases hc : c.relation <;>
      simp [moveTo, Column.moveTo, display, hc, Table.moveTo, Column.plainName]
  | _ => rfl

@[simp] theorem origin_tag_moveTo : (o.moveTo origin).tag.origin = origin := by
  have tag (t : Tag) : (t.moveTo origin).origin = origin := by cases t <;> rfl
  cases o <;> exact tag _

end Object

namespace Document

variable {D : Document} {o o' : Nat}

theorem renameSchemas_id : D.renameSchemas id = D := by
  simp [renameSchemas, SchemaEntry.rename, TableEntry.rename, ColumnEntry.rename,
    IndexEntry.rename, PrimaryKeyEntry.rename, ForeignKeyEntry.rename,
    UniqueConstraintEntry.rename]

/-- Documents resolve under one origin as under another, up to relocation. -/
theorem objects_of_resolve {s s' : Snapshot} (h : D.resolve o = .ok s)
    (h' : D.resolve o' = .ok s') : s'.objects = s.objects.map (·.moveTo o') := by
  obtain ⟨moved, resolved, objects⟩ := resolve_renameSchemas h (Set.injOn_id _) o'
  rw [renameSchemas_id, h'] at resolved
  obtain rfl := Except.ok.inj resolved
  simpa only [Object.moveTo_eq] using objects

/-- The objects of a resolved document carry its origin. -/
theorem origin_tag_of_mem {s : Snapshot} (hs : D.resolve o = .ok s) {a : Object}
    (ha : a ∈ s.objects) : a.tag.origin = o := by
  rw [objects_of_resolve hs hs] at ha
  obtain ⟨a, -, rfl⟩ := List.mem_map.1 ha
  exact Object.origin_tag_moveTo

end Document

end SchemaDelta

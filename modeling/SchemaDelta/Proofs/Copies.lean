import SchemaDelta.Proofs.Alike
import SchemaDelta.Proofs.Relocation

/-!
# Copies of objects

An object and its copy under another origin share no instance, and yet are the same by
what they hold: names, links and column lists agree level by level. The schemas of a copy
may even have other names, as long as each is still alike to the one it stands for. Only a
key without identity is not the same as its copy: a primary key without a table whose name
says nothing, and a foreign key without a name that does not link two tables. Such a key is
not the same as any other instance at all.

## Main definitions

* `Identity.isAnonymous` — keys without identity.
* `Identity.KeepsSchemas` — schemas are alike to what they become under other names.
-/

namespace SchemaDelta

namespace Identity

variable {d : Dialect} {p : Policy} {origin : Nat} {ν : String → String}

/-- Keys without identity: nothing tells them apart from another of their kind. -/
def isAnonymous : Object → Bool
  | .primaryKey k =>
    (Rule.PrimaryKey.tableWithName k.table).isNone && (Rule.PrimaryKey.foldedName k.name).isNone
  | .foreignKey k => k.name.isNone && !Rule.ForeignKey.isResolved k
  | _ => false

/-- A schema is alike to what it becomes under another name and origin. -/
def KeepsSchemas (d : Dialect) (p : Policy) (origin : Nat) (ν : String → String) : Prop :=
  ∀ s : Schema, schemasAlike d p s (s.recast origin ν)

/-! ## Copies are the same -/

theorem filter_named_recast (t : Option Table) :
    (t.map (·.recast origin ν)).filter (·.name.isSome) =
      (t.filter (·.name.isSome)).map (·.recast origin ν) := by
  cases t with
  | none => rfl
  | some t => cases ht : t.name <;> simp [Option.filter, ht, Table.recast]

theorem tableWithName_recast (k : PrimaryKey) :
    Rule.PrimaryKey.tableWithName (k.recast origin ν).table =
      (Rule.PrimaryKey.tableWithName k.table).map (·.recast origin ν) :=
  filter_named_recast k.table

theorem isResolved_recast (k : ForeignKey) :
    Rule.ForeignKey.isResolved (k.recast origin ν) = Rule.ForeignKey.isResolved k := by
  simp [Rule.ForeignKey.isResolved, ForeignKey.recast]

theorem isAnonymous_recast (origin : Nat) (ν : String → String) (o : Object) :
    isAnonymous (o.recast origin ν) = isAnonymous o := by
  cases o with
  | primaryKey k =>
    simp only [Object.recast, isAnonymous, tableWithName_recast, Option.isNone_map]
    rfl
  | foreignKey k =>
    simp only [Object.recast, isAnonymous, isResolved_recast]
    rfl
  | _ => rfl

theorem isAnonymous_moveTo (origin : Nat) (o : Object) :
    isAnonymous (o.moveTo origin) = isAnonymous o := by
  rw [Object.moveTo_eq, isAnonymous_recast]

theorem optional_map {α : Type} [DecidableEq α] {alike : α → α → Bool} {g : α → α}
    (h : ∀ a, alike a (g a) = true) (a : Option α) : optional alike a (a.map g) = true := by
  cases a with
  | none => rfl
  | some a => simp [optional, h a]

theorem containersAgree_self (name : Option String) : Rule.containersAgree d name name := by
  unfold Rule.containersAgree
  split <;> simp [Text.sameIgnoringCase]

theorem namesMatch_of_name_eq {a b : Object} (h : a.name = b.name) : Rule.namesMatch d a b := by
  rw [Rule.namesMatch, h]
  exact Differences.namesAgree_self d _

theorem namesEqual_self (name : String) : d.namesEqual name name := by
  simp [Dialect.namesEqual, Text.sameIgnoringCase]

theorem sameCatalog_moveTo (c : Catalog) : Rule.Catalog.sameCatalog d p c (c.moveTo origin) := by
  have named : Rule.Catalog.effectiveName p (c.moveTo origin) = Rule.Catalog.effectiveName p c :=
    rfl
  unfold Rule.Catalog.sameCatalog
  rw [named]
  split
  · rfl
  · dsimp only
    split
    · next h => simp [h]
    · simp [containersAgree_self]

theorem catalogs_moveTo (c : Option Catalog) : catalogs d p c (c.map (·.moveTo origin)) :=
  optional_map sameCatalog_moveTo c

/-- Schemas that keep their names are alike. -/
theorem keepsSchemas_id (d : Dialect) (p : Policy) (origin : Nat) : KeepsSchemas d p origin id := by
  intro s
  have catalogName : (s.recast origin id).catalogName = s.catalogName := by
    unfold Schema.catalogName Schema.recast
    cases s.catalog <;> rfl
  have name : (s.recast origin id).name = s.name := Option.map_id_apply
  have named : Rule.Schema.namespaceName d (s.recast origin id) =
      Rule.Schema.namespaceName d s := by
    rw [Rule.Schema.namespaceName, Rule.Schema.namespaceName, catalogName, name]
  have same : Rule.Schema.sameSchema d p s (s.recast origin id) := by
    simp [Rule.Schema.sameSchema, named, containersAgree_self]
  have linked : catalogs d p s.catalog (s.recast origin id).catalog := catalogs_moveTo s.catalog
  simp [schemasAlike, same, linked]

/-- Groups of one name on a table and its copy are alike when their columns and schemas are copies
of each other. -/
theorem groupsAlike_of_copies {a b : Rule.ColumnGroup} (named : a.object.name = b.object.name)
    (onTable : tables d p a.table b.table) (inSchema : schemas d p a.schema b.schema)
    (length : a.columns.length = b.columns.length) (columns : columnLists d p a.columns b.columns) :
    groupsAlike d p a b := by
  have hname := namesMatch_of_name_eq (d := d) named
  have hschema : inOtherSchema d p a b = false := by simp [inOtherSchema, inSchema]
  have hby : groupsByName d p a b := by simp [groupsByName, hname, hschema, length]
  have hon : groupsOnTable d p a b := by
    simp [groupsOnTable, hname, length, columns]
  unfold groupsAlike
  split <;> simp [*]

theorem schema_index_recast (i : Index) :
    (i.recast origin ν).schema = i.schema.map (·.recast origin ν) := by
  unfold Index.schema Index.recast
  cases i.ownSchema with
  | some => rfl
  | none => cases i.table <;> rfl

theorem schema_uniqueConstraint_recast (u : UniqueConstraint) :
    (u.recast origin ν).schema = u.schema.map (·.recast origin ν) := by
  unfold UniqueConstraint.schema UniqueConstraint.recast
  cases u.ownSchema with
  | some => rfl
  | none => cases u.table <;> rfl

theorem linkedColumns_recast (u : UniqueConstraint) :
    Rule.UniqueConstraint.linkedColumns (u.recast origin ν) =
      (Rule.UniqueConstraint.linkedColumns u).map (·.recast origin ν) := by
  simp only [Rule.UniqueConstraint.linkedColumns, UniqueConstraint.recast, List.map_map]
  rfl

namespace KeepsSchemas

variable (h : KeepsSchemas d p origin ν)

include h

theorem schemas (s : Option Schema) : schemas d p s (s.map (·.recast origin ν)) :=
  optional_map h s

theorem tablesAlike (t : Table) : tablesAlike d p t (t.recast origin ν) := by
  have named : Rule.namesMatch d (.table t) (.table (t.recast origin ν)) :=
    namesMatch_of_name_eq rfl
  have linked : Identity.schemas d p t.schema (t.recast origin ν).schema := h.schemas t.schema
  simp [Identity.tablesAlike, named, linked]

theorem tables (t : Option Table) : tables d p t (t.map (·.recast origin ν)) :=
  optional_map h.tablesAlike t

theorem columnsAlike (c : Column) : columnsAlike d p c (c.recast origin ν) := by
  have named : Rule.namesMatch d (.column c) (.column (c.recast origin ν)) :=
    namesMatch_of_name_eq rfl
  have linked : Identity.tables d p c.relation (c.recast origin ν).relation := h.tables c.relation
  have computed : (c.recast origin ν).isComputed = c.isComputed := rfl
  have descending : (c.recast origin ν).isDescending = c.isDescending := rfl
  simp [Identity.columnsAlike, named, linked, computed, descending]

theorem columnLists (cs : List Column) : columnLists d p cs (cs.map (·.recast origin ν)) := by
  induction cs with
  | nil => rfl
  | cons c cs ih => simp [Identity.columnLists, h.columnsAlike, ih]

theorem indexesAlike (i : Index) : alike d p (.index i) (.index (i.recast origin ν)) := by
  have inSchema : Identity.schemas d p i.schema (i.recast origin ν).schema := by
    rw [schema_index_recast]
    exact h.schemas i.schema
  exact groupsAlike_of_copies rfl (h.tables i.table) inSchema (List.length_map _).symm
    (h.columnLists i.columns)

theorem uniqueConstraintsAlike (u : UniqueConstraint) :
    alike d p (.uniqueConstraint u) (.uniqueConstraint (u.recast origin ν)) := by
  have inSchema : Identity.schemas d p u.schema (u.recast origin ν).schema := by
    rw [schema_uniqueConstraint_recast]
    exact h.schemas u.schema
  refine groupsAlike_of_copies rfl (h.tables u.table) inSchema ?_ ?_ <;>
    simp only [Rule.UniqueConstraint.group, linkedColumns_recast]
  · exact (List.length_map _).symm
  · exact h.columnLists _

theorem primaryKeysAlike {k : PrimaryKey} (identified : isAnonymous (.primaryKey k) = false) :
    primaryKeysAlike d p k (k.recast origin ν) := by
  have linked (t : Table) : Identity.tables d p (some t) (some (t.recast origin ν)) :=
    h.tables (some t)
  have named : (k.recast origin ν).name = k.name := rfl
  rw [Identity.primaryKeysAlike, tableWithName_recast, named]
  cases ht : Rule.PrimaryKey.tableWithName k.table with
  | some t => simpa using linked t
  | none =>
    cases hn : Rule.PrimaryKey.foldedName k.name with
    | some n => simp
    | none => simp [isAnonymous, ht, hn] at identified

theorem foreignKeysAlike {k : ForeignKey} (identified : isAnonymous (.foreignKey k) = false) :
    foreignKeysAlike d p k (k.recast origin ν) := by
  have names (cs : List Column) :
      Rule.ForeignKey.nameList (cs.map (·.recast origin ν)) = Rule.ForeignKey.nameList cs := by
    rw [Rule.ForeignKey.nameList, List.map_map]
    rfl
  rw [Identity.foreignKeysAlike, isResolved_recast, Bool.and_self]
  split
  · have foreign : Identity.tables d p k.foreignTable (k.recast origin ν).foreignTable :=
      h.tables _
    have primary : Identity.tables d p k.primaryTable (k.recast origin ν).primaryTable :=
      h.tables _
    simp only [foreignKeysByLink, foreign, primary, Bool.and_true]
    simp [ForeignKey.recast, names, namesEqual_self]
  · next unresolved =>
    obtain ⟨name, hname⟩ : ∃ name, k.name = some name := by
      cases hk : k.name with
      | some name => exact ⟨name, rfl⟩
      | none => simp_all [isAnonymous]
    have hname' : (k.recast origin ν).name = some name := hname
    have owner : (k.recast origin ν).foreignTable.filter (·.name.isSome) =
        (k.foreignTable.filter (·.name.isSome)).map (·.recast origin ν) :=
      filter_named_recast k.foreignTable
    have linked (t : Table) : Identity.tables d p (some t) (some (t.recast origin ν)) :=
      h.tables (some t)
    rw [foreignKeysByName, owner, hname, hname']
    cases ht : k.foreignTable.filter (·.name.isSome) with
    | none => simp [namesEqual_self]
    | some t => simpa [namesEqual_self] using linked t

/-- What has an identity is the same as its copies. -/
theorem same {o : Object} (identified : isAnonymous o = false) : same d p o (o.recast origin ν) := by
  have alike : alike d p o (o.recast origin ν) := by
    cases o with
    | catalog c => exact sameCatalog_moveTo c
    | schema s => exact h s
    | table t => exact h.tablesAlike t
    | column c => exact h.columnsAlike c
    | index i => exact h.indexesAlike i
    | primaryKey k => exact h.primaryKeysAlike identified
    | foreignKey k => exact h.foreignKeysAlike identified
    | uniqueConstraint u => exact h.uniqueConstraintsAlike u
  rw [Identity.same, alike, Bool.or_true]

end KeepsSchemas

theorem same_moveTo {o : Object} (identified : isAnonymous o = false) :
    same d p o (o.moveTo origin) := by
  rw [Object.moveTo_eq]
  exact (keepsSchemas_id d p origin).same identified

/-- What has no identity is not alike to anything. -/
theorem alike_of_isAnonymous {a b : Object} (h : isAnonymous a = true ∨ isAnonymous b = true) :
    alike d p a b = false := by
  cases a <;> cases b <;> try simp [isAnonymous, alike] at h ⊢
  next a b =>
    unfold primaryKeysAlike
    rcases h with ⟨ht, hn⟩ | ⟨ht, hn⟩
    · simp [ht, hn]
    · cases Rule.PrimaryKey.tableWithName a.table <;> cases Rule.PrimaryKey.foldedName a.name <;>
        simp [ht, hn]
  next a b =>
    have unresolved : (Rule.ForeignKey.isResolved a && Rule.ForeignKey.isResolved b) = false := by
      rcases h with ⟨-, h⟩ | ⟨-, h⟩ <;> simp [h]
    rw [foreignKeysAlike, unresolved, if_neg Bool.false_ne_true, foreignKeysByName]
    rcases h with ⟨h, -⟩ | ⟨h, -⟩
    · simp [h]
    · cases a.name <;> simp [h]

/-- The keys of an object are those of its copies. -/
theorem keysOf_recast (o : Object) : keysOf (o.recast origin ν) = keysOf o := by
  have bind (t : Option Table) : (t.map (·.recast origin ν)).bind (·.name) = t.bind (·.name) := by
    cases t <;> rfl
  have keys (t : Option Table) : (t.map (·.recast origin ν)).map (fun t => nameKey t.name) =
      t.map fun t => nameKey t.name := by
    cases t <;> rfl
  cases o with
  | catalog | schema | table => rfl
  | column c =>
    have owner := bind c.relation
    simp only [Object.recast, keysOf, Rule.Column.key, Column.recast, owner]
    rfl
  | index i => simp only [Object.recast, keysOf, groupKeys, Index.recast, keys]
  | uniqueConstraint u =>
    simp only [Object.recast, keysOf, groupKeys, UniqueConstraint.recast, keys]
  | primaryKey k =>
    simp only [Object.recast, keysOf, primaryKeyKeys, PrimaryKey.recast, bind]
    cases k.name <;> cases k.table <;> rfl
  | foreignKey k =>
    simp only [Object.recast, keysOf, foreignKeyKeys, ForeignKey.recast, bind]
    cases k.name <;> cases k.foreignTable <;> rfl

theorem keysOf_moveTo (o : Object) : keysOf (o.moveTo origin) = keysOf o := by
  rw [Object.moveTo_eq, keysOf_recast]

end Identity

/-! ## Copies are alike -/

namespace Object

variable {d : Dialect} {p : Policy} {origin : Nat} {ν : String → String}

theorem kind_recast (o : Object) : (o.recast origin ν).kind = o.kind := by cases o <;> rfl

theorem rel_alike_of_eq {o : Object} (h : o.WithoutNan) {f : Field} {w : Option Value}
    (hw : w = o.get? f) : Option.Rel (Value.Alike d p) (o.get? f) w := by
  subst hw
  cases hv : o.get? f with
  | none => exact .none
  | some v => exact .some (.refl (h f v hv))

variable (hν : Identity.KeepsSchemas d p origin ν)

include hν

theorem rel_alike_link {α : Type} (link : α → Object) {move : α → α}
    (h : ∀ a, link (move a) = (link a).recast origin ν)
    (named : ∀ a, (link (move a)).name = (link a).name)
    (identified : ∀ a, Identity.isAnonymous (link a) = false) (a : Option α) :
    Option.Rel (Value.Alike d p) (a.map fun a => .object (link a))
      ((a.map move).map fun a => .object (link a)) := by
  cases a with
  | none => exact .none
  | some a =>
    refine .some (.object (named a).symm ?_ ?_) <;> rw [h a]
    · exact (kind_recast _).symm
    · exact hν.same (identified a)

theorem rel_alike_columns (cs : List Column) :
    Option.Rel (Value.Alike d p) (some (.ofColumns cs))
      (some (.ofColumns (cs.map (·.recast origin ν)))) := by
  refine .some (.columns ?_)
  rw [List.forall₂_map_right_iff, List.forall₂_same]
  exact fun c _ => ⟨rfl, hν.same (o := .column c) rfl⟩

/-- Copies differ in nothing but names of schemas, as long as no value is `nan`. -/
theorem alike_recast {o : Object} (h : o.WithoutNan)
    (named : ∀ s, o = .schema s → s.name.map ν = s.name) : o.Alike d p (o.recast origin ν) where
  kind := (kind_recast o).symm
  values f hschema hcatalog := by
    cases o <;> cases f <;>
      first
      | exact absurd rfl hschema
      | exact absurd rfl hcatalog
      | exact rel_alike_of_eq h rfl
      | exact rel_alike_of_eq h (congrArg (Option.map Value.text) (named _ rfl))
      | exact rel_alike_link hν .table (fun _ => rfl) (fun _ => rfl) (fun _ => rfl) _
      | exact rel_alike_link hν .index (fun _ => rfl) (fun _ => rfl) (fun _ => rfl) _
      | exact rel_alike_columns hν _

omit hν

theorem alike_moveTo {o : Object} (h : o.WithoutNan) : o.Alike d p (o.moveTo origin) := by
  rw [moveTo_eq]
  exact alike_recast (Identity.keepsSchemas_id d p origin) h fun s _ => Option.map_id_apply

end Object

end SchemaDelta

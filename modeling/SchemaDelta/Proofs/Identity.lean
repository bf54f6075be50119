import SchemaDelta.Proofs.Fallible
import SchemaDelta.Rulebook

/-!
# What the built-in rules identify

The judge of the built-in rules never fails to tell whether two objects are the same, nor
under which keys an object is found. Both are given here as plain functions, level by
level: the identity of an object refers to that of the objects it is linked to, and a
judge that is deep enough for the level answers with it.

## Main definitions

* `Identity.same` — whether two objects are the same.
* `Identity.keysOf` — the keys of an object.
-/

namespace SchemaDelta

namespace Identity

/-! ## Objects and their links -/

/-- What is linked is the same when it is one instance or alike, or absent on both sides. -/
def optional {α : Type} [DecidableEq α] (alike : α → α → Bool) : Option α → Option α → Bool
  | none, none => true
  | some a, some b => decide (a = b) || alike a b
  | _, _ => false

section

variable (d : Dialect) (p : Policy)

def catalogs : Option Catalog → Option Catalog → Bool := optional (Rule.Catalog.sameCatalog d p)

def schemasAlike (a b : Schema) : Bool :=
  (!p.includeCatalog || catalogs d p a.catalog b.catalog) && Rule.Schema.sameSchema d p a b

def schemas : Option Schema → Option Schema → Bool := optional (schemasAlike d p)

def tablesAlike (a b : Table) : Bool :=
  Rule.namesMatch d (.table a) (.table b) && schemas d p a.schema b.schema

def tables : Option Table → Option Table → Bool := optional (tablesAlike d p)

def columnsAlike (a b : Column) : Bool :=
  Rule.namesMatch d (.column a) (.column b) && tables d p a.relation b.relation &&
    (a.isComputed == b.isComputed && a.isDescending == b.isDescending)

/-- Columns are pairwise the same as far as both lists go. -/
def columnLists : List Column → List Column → Bool
  | a :: as, b :: bs => (decide (a = b) || columnsAlike d p a b) && columnLists as bs
  | _, _ => true

/-- Both have a schema and these are not the same. -/
def inOtherSchema (a b : Rule.ColumnGroup) : Bool :=
  a.schema.isSome && b.schema.isSome && !schemas d p a.schema b.schema

def groupsByName (a b : Rule.ColumnGroup) : Bool :=
  !(!a.columns.isEmpty && !b.columns.isEmpty && a.columns.length != b.columns.length) &&
    (Rule.namesMatch d a.object b.object && !inOtherSchema d p a b)

def groupsOnTable (a b : Rule.ColumnGroup) : Bool :=
  if a.object.name.isSome && b.object.name.isSome && Rule.namesMatch d a.object b.object then true
  else if a.columns.isEmpty || b.columns.isEmpty then Rule.namesMatch d a.object b.object
  else a.columns.length == b.columns.length && columnLists d p a.columns b.columns

/-- Indexes, or unique constraints, are alike on one table or, without both tables, by name. -/
def groupsAlike (a b : Rule.ColumnGroup) : Bool :=
  if a.table.isSome && b.table.isSome then
    tables d p a.table b.table && !inOtherSchema d p a b && groupsOnTable d p a b
  else groupsByName d p a b

def primaryKeysAlike (a b : PrimaryKey) : Bool :=
  match Rule.PrimaryKey.tableWithName a.table, Rule.PrimaryKey.tableWithName b.table with
  | some t, some u => tables d p (some t) (some u)
  | _, _ =>
    match Rule.PrimaryKey.foldedName a.name, Rule.PrimaryKey.foldedName b.name with
    | some m, some n => m == n
    | _, _ => false

def foreignKeysByName (a b : ForeignKey) : Bool :=
  (match a.foreignTable.filter (·.name.isSome), b.foreignTable.filter (·.name.isSome) with
    | some t, some u => tables d p (some t) (some u)
    | _, _ => true) &&
  (match a.name, b.name with
    | some m, some n => d.namesEqual m n
    | _, _ => false)

def foreignKeysByLink (a b : ForeignKey) : Bool :=
  d.namesEqual (Rule.ForeignKey.nameList a.foreignColumns)
      (Rule.ForeignKey.nameList b.foreignColumns) &&
    d.namesEqual (Rule.ForeignKey.nameList a.primaryColumns)
      (Rule.ForeignKey.nameList b.primaryColumns) &&
    (tables d p a.foreignTable b.foreignTable && tables d p a.primaryTable b.primaryTable)

def foreignKeysAlike (a b : ForeignKey) : Bool :=
  if Rule.ForeignKey.isResolved a && Rule.ForeignKey.isResolved b then foreignKeysByLink d p a b
  else foreignKeysByName d p a b

/-- Two different instances of one kind are the same. -/
def alike : Object → Object → Bool
  | .catalog a, .catalog b => Rule.Catalog.sameCatalog d p a b
  | .schema a, .schema b => schemasAlike d p a b
  | .table a, .table b => tablesAlike d p a b
  | .column a, .column b => columnsAlike d p a b
  | .index a, .index b =>
    groupsAlike d p (Rule.Index.group (.index a) a) (Rule.Index.group (.index b) b)
  | .primaryKey a, .primaryKey b => primaryKeysAlike d p a b
  | .foreignKey a, .foreignKey b => foreignKeysAlike d p a b
  | .uniqueConstraint a, .uniqueConstraint b =>
    groupsAlike d p (Rule.UniqueConstraint.group (.uniqueConstraint a) a)
      (Rule.UniqueConstraint.group (.uniqueConstraint b) b)
  | _, _ => false

/-- Whether two objects are the same. -/
def same (a b : Object) : Bool := decide (a = b) || alike d p a b

end

/-! ## Keys -/

/-- A name as a key. -/
def nameKey (name : Option String) : String :=
  match name with
  | some name => Text.lower name
  | none => "null"

def groupKeys (name : Option String) (table : Option Table) : List String :=
  (name.map Text.lower).toList ++ (table.map fun t => nameKey t.name).toList

def primaryKeyKeys (k : PrimaryKey) : Keys :=
  match k.name with
  | none => k.table.map fun t => [nameKey t.name]
  | some name => some (Text.lower name :: ((k.table.bind (·.name)).map Text.lower).toList)

def foreignKeyKeys (k : ForeignKey) : Keys :=
  match k.name with
  | none => k.foreignTable.map fun t => [nameKey t.name]
  | some name => some (Text.lower name :: ((k.foreignTable.bind (·.name)).map Text.lower).toList)

/-- The keys of an object. -/
def keysOf : Object → Keys
  | .catalog _ => none
  | .schema _ => none
  | .table t => some [nameKey t.name]
  | .column c => some [Rule.Column.key c]
  | .index i => some (groupKeys i.name i.table)
  | .primaryKey k => primaryKeyKeys k
  | .foreignKey k => foreignKeyKeys k
  | .uniqueConstraint u => some (groupKeys u.name u.table)

end Identity

namespace Rulebook

open Identity

variable {d : Dialect} {p : Policy} {n : Nat}

/-! ## The chains of the built-in rules -/

/-- The rule made for a kind. -/
def ownRule : Kind → Rule
  | .catalog => Rule.catalog
  | .schema => Rule.schema
  | .table => Rule.table
  | .column => Rule.column
  | .index => Rule.index
  | .primaryKey => Rule.primaryKey
  | .foreignKey => Rule.foreignKey
  | .uniqueConstraint => Rule.uniqueConstraint

/-- The rules that refine a kind's own one. -/
def refinements (d : Dialect) (k : Kind) : List Rule :=
  if k = .column ∧ d.family = .postgres then [Rule.postgresColumn] else []

theorem rules_builtin (d : Dialect) (k : Kind) :
    (builtin d).rules k = refinements d k ++ [ownRule k, Rule.generic] := by
  cases k with
  | column =>
    by_cases h : d.family = .postgres <;>
      simp [builtin, ofRules, builtinRules, refinements, h, Rule.generic, Rule.catalog,
        Rule.schema, Rule.table, Rule.column, Rule.postgresColumn, Rule.index, Rule.primaryKey,
        Rule.foreignKey, Rule.uniqueConstraint, Rule.onlyFor, ownRule]
  | _ => rfl

/-- What a kind's own rule can consult in a judge of some depth. -/
def scopeAt (d : Dialect) (p : Policy) (n : Nat) : Scope :=
  ⟨d, p, (builtin d).judgeAt d p n, chain d p ((builtin d).judgeAt d p n) [Rule.generic]⟩

@[simp] theorem scopeAt_dialect : (scopeAt d p n).dialect = d := rfl

@[simp] theorem scopeAt_policy : (scopeAt d p n).policy = p := rfl

/-- The judge asks a kind's own rule; what refines it has no say in identity. -/
theorem same_judgeAt_succ {a b : Option Object} {o : Object} (h : a.or b = some o) :
    ((builtin d).judgeAt d p (n + 1)).same a b =
      samePresent ((ownRule o.kind).same (scopeAt d p n)) a b := by
  have asked : ((builtin d).judgeAt d p (n + 1)).same a b =
      (chain d p ((builtin d).judgeAt d p n) ((builtin d).rules o.kind)).same a b := by
    simp only [judgeAt, h]
  rw [asked, rules_builtin, refinements]
  split
  · cases a <;> cases b <;> try rfl
    simp only [List.cons_append, List.nil_append, chain, Rule.postgresColumn, samePresent]
    split
    · rfl
    · split <;> rfl
  · rfl

theorem keys_judgeAt_succ (o : Object) :
    ((builtin d).judgeAt d p (n + 1)).keys o = (ownRule o.kind).keys (scopeAt d p n) o := by
  change (chain d p _ ((builtin d).rules o.kind)).keys o = _
  rw [rules_builtin, refinements]
  split <;> rfl

/-! ## Identity, level by level -/

theorem same_judgeAt_of_own {a b : Object} {x : Bool} (hkind : a.kind = b.kind)
    (own : (ownRule a.kind).same (scopeAt d p n) a b = .ok x) :
    ((builtin d).judgeAt d p (n + 1)).same (some a) (some b) = .ok (decide (a = b) || x) := by
  rw [same_judgeAt_succ rfl]
  by_cases hab : a = b <;> simp [samePresent, Object.sameInstance, ← hkind, hab, own]

/-- Of links the judge knows what it knows of the objects that they lead to. -/
theorem same_judgeAt_map {α : Type} [DecidableEq α] {link : α → Object} {alike : α → α → Bool}
    (h : ∀ a b, ((builtin d).judgeAt d p (n + 1)).same (some (link a)) (some (link b)) =
      .ok (decide (a = b) || alike a b)) (a b : Option α) :
    ((builtin d).judgeAt d p (n + 1)).same (a.map link) (b.map link) =
      .ok (optional alike a b) := by
  cases a with
  | none =>
    cases b with
    | none => rfl
    | some b => exact same_judgeAt_succ rfl
  | some a =>
    cases b with
    | none => exact same_judgeAt_succ rfl
    | some b => exact h a b

theorem same_catalog (a b : Catalog) :
    ((builtin d).judgeAt d p (n + 1)).same (some (.catalog a)) (some (.catalog b)) =
      .ok (decide (a = b) || Rule.Catalog.sameCatalog d p a b) := by
  have own : Rule.Catalog.same (scopeAt d p n) (.catalog a) (.catalog b) =
      .ok (Rule.Catalog.sameCatalog d p a b) := rfl
  simpa using same_judgeAt_of_own (a := .catalog a) (b := .catalog b) rfl own

theorem same_catalogs (a b : Option Catalog) :
    ((builtin d).judgeAt d p (n + 1)).same (a.map .catalog) (b.map .catalog) =
      .ok (catalogs d p a b) :=
  same_judgeAt_map same_catalog a b

theorem same_schema (a b : Schema) :
    ((builtin d).judgeAt d p (n + 2)).same (some (.schema a)) (some (.schema b)) =
      .ok (decide (a = b) || schemasAlike d p a b) := by
  have own : Rule.Schema.same (scopeAt d p (n + 1)) (.schema a) (.schema b) =
      .ok (schemasAlike d p a b) := by
    cases hp : p.includeCatalog <;>
      simp [Rule.Schema.same, scopeAt, same_catalogs, schemasAlike, hp, Rule.expectBoth,
        Rule.expect, Object.schema?]
  simpa using same_judgeAt_of_own (a := .schema a) (b := .schema b) rfl own

theorem same_schemas (a b : Option Schema) :
    ((builtin d).judgeAt d p (n + 2)).same (a.map .schema) (b.map .schema) =
      .ok (schemas d p a b) :=
  same_judgeAt_map same_schema a b

theorem same_table (a b : Table) :
    ((builtin d).judgeAt d p (n + 3)).same (some (.table a)) (some (.table b)) =
      .ok (decide (a = b) || tablesAlike d p a b) := by
  have own : Rule.Table.same (scopeAt d p (n + 2)) (.table a) (.table b) =
      .ok (tablesAlike d p a b) := by
    cases hn : Rule.namesMatch d (.table a) (.table b) <;>
      simp [Rule.Table.same, scopeAt, same_schemas, tablesAlike, hn, Rule.expectBoth,
        Rule.expect, Object.table?]
  simpa using same_judgeAt_of_own (a := .table a) (b := .table b) rfl own

theorem same_tables (a b : Option Table) :
    ((builtin d).judgeAt d p (n + 3)).same (a.map .table) (b.map .table) =
      .ok (tables d p a b) :=
  same_judgeAt_map same_table a b

theorem same_column (a b : Column) :
    ((builtin d).judgeAt d p (n + 4)).same (some (.column a)) (some (.column b)) =
      .ok (decide (a = b) || columnsAlike d p a b) := by
  have own : Rule.Column.same (scopeAt d p (n + 3)) (.column a) (.column b) =
      .ok (columnsAlike d p a b) := by
    cases hn : Rule.namesMatch d (.column a) (.column b) <;>
      cases ht : tables d p a.relation b.relation <;>
      simp [Rule.Column.same, scopeAt, same_tables, columnsAlike, hn, ht, Rule.expectBoth,
        Rule.expect, Object.column?]
  simpa using same_judgeAt_of_own (a := .column a) (b := .column b) rfl own

/-! ## Indexes and constraints -/

theorem columnsSame_scopeAt (as bs : List Column) :
    Rule.ColumnGroup.columnsSame (scopeAt d p (n + 4)) as bs = .ok (columnLists d p as bs) := by
  induction as generalizing bs with
  | nil => rfl
  | cons a as ih =>
    cases bs with
    | nil => rfl
    | cons b bs =>
      rw [Rule.ColumnGroup.columnsSame, columnLists, ih]
      simp only [scopeAt, same_column, Fallible.ok_bind]
      cases decide (a = b) || columnsAlike d p a b <;> rfl

theorem inOtherSchema_scopeAt (a b : Rule.ColumnGroup) :
    Rule.ColumnGroup.inOtherSchema (scopeAt d p (n + 2)) a b = .ok (inOtherSchema d p a b) := by
  unfold Rule.ColumnGroup.inOtherSchema inOtherSchema
  cases a.schema with
  | none => rfl
  | some x =>
    cases b.schema with
    | none => rfl
    | some y =>
      simp only [scopeAt, same_schema, Fallible.map_ok]
      rfl

theorem sameByName_scopeAt (a b : Rule.ColumnGroup) :
    Rule.ColumnGroup.sameByName (scopeAt d p (n + 2)) a b = .ok (groupsByName d p a b) := by
  unfold Rule.ColumnGroup.sameByName groupsByName
  rw [inOtherSchema_scopeAt, scopeAt_dialect]
  split
  · next h =>
    rw [h]
    rfl
  · next h =>
    rw [Bool.not_eq_true] at h
    rw [h]
    cases Rule.namesMatch d a.object b.object <;> rfl

theorem sameOnTable_scopeAt (a b : Rule.ColumnGroup) :
    Rule.ColumnGroup.sameOnTable (scopeAt d p (n + 4)) a b = .ok (groupsOnTable d p a b) := by
  unfold Rule.ColumnGroup.sameOnTable groupsOnTable
  rw [columnsSame_scopeAt, scopeAt_dialect]
  dsimp only
  split
  · rfl
  · split
    · rfl
    · cases hl : a.columns.length == b.columns.length <;> simp_all

theorem same_groups (a b : Rule.ColumnGroup) :
    Rule.ColumnGroup.same (scopeAt d p (n + 4)) a b = .ok (groupsAlike d p a b) := by
  unfold Rule.ColumnGroup.same groupsAlike
  rw [inOtherSchema_scopeAt, sameOnTable_scopeAt, sameByName_scopeAt]
  cases ha : a.table with
  | none => rfl
  | some x =>
    cases hb : b.table with
    | none => rfl
    | some y =>
      have linked := same_tables (d := d) (p := p) (n := n + 1) (some x) (some y)
      simp only [Option.map_some] at linked
      simp only [scopeAt, linked, Fallible.ok_bind, Option.isSome_some, Bool.and_self, if_true]
      cases tables d p (some x) (some y) <;> cases inOtherSchema d p a b <;> rfl

theorem same_primaryKey (a b : PrimaryKey) :
    Rule.PrimaryKey.same (scopeAt d p (n + 3)) (.primaryKey a) (.primaryKey b) =
      .ok (primaryKeysAlike d p a b) := by
  have linked (t u : Table) := same_tables (d := d) (p := p) (n := n) (some t) (some u)
  simp only [Option.map_some] at linked
  unfold primaryKeysAlike
  simp only [Rule.PrimaryKey.same, Rule.expectBoth, Rule.expect, Object.primaryKey?,
    Fallible.ok_bind, Fallible.pure_eq, scopeAt, linked]
  cases Rule.PrimaryKey.tableWithName a.table <;> cases Rule.PrimaryKey.tableWithName b.table <;>
    cases Rule.PrimaryKey.foldedName a.name <;> cases Rule.PrimaryKey.foldedName b.name <;> rfl

theorem same_foreignKey (a b : ForeignKey) :
    Rule.ForeignKey.same (scopeAt d p (n + 3)) (.foreignKey a) (.foreignKey b) =
      .ok (foreignKeysAlike d p a b) := by
  have linked := same_tables (d := d) (p := p) (n := n)
  have byName : Rule.ForeignKey.sameByName (scopeAt d p (n + 3)) a b =
      .ok (foreignKeysByName d p a b) := by
    unfold Rule.ForeignKey.sameByName foreignKeysByName
    dsimp only
    cases a.foreignTable.filter fun t => t.name.isSome with
    | none =>
      cases a.name <;> cases b.name <;> rfl
    | some t =>
      cases b.foreignTable.filter fun t => t.name.isSome with
      | none => cases a.name <;> cases b.name <;> rfl
      | some u =>
        have linked := linked (some t) (some u)
        simp only [Option.map_some] at linked
        simp only [scopeAt, linked, Fallible.ok_bind]
        cases tables d p (some t) (some u) <;> cases a.name <;> cases b.name <;> rfl
  have byLink : Rule.ForeignKey.sameByLink (scopeAt d p (n + 3)) a b =
      .ok (foreignKeysByLink d p a b) := by
    unfold Rule.ForeignKey.sameByLink foreignKeysByLink
    simp only [scopeAt, linked, Fallible.ok_bind]
    split
    · next h =>
      rw [h]
      cases tables d p a.foreignTable b.foreignTable <;> simp [Fallible.pure_eq]
    · next h =>
      rw [Bool.not_eq_true] at h
      simp [h, Fallible.pure_eq]
  simp only [Rule.ForeignKey.same, Rule.expectBoth, Rule.expect, Object.foreignKey?,
    Fallible.ok_bind, Fallible.pure_eq, foreignKeysAlike, byName, byLink]
  split <;> rfl

/-! ## The answers of the judge -/

theorem same_judgeAt_of_kind_ne {a b : Object} (h : a.kind ≠ b.kind) :
    ((builtin d).judgeAt d p (n + 1)).same (some a) (some b) = .ok false := by
  rw [same_judgeAt_succ rfl]
  simp [samePresent, h]

theorem alike_of_kind_ne {a b : Object} (h : a.kind ≠ b.kind) : alike d p a b = false := by
  cases a <;> cases b <;> first | exact absurd rfl h | rfl

theorem kind_eq_of_alike {a b : Object} (h : alike d p a b = true) : a.kind = b.kind := by
  by_contra apart
  rw [alike_of_kind_ne apart] at h
  cases h

/-- A judge that is deep enough tells of any two objects whether they are the same. -/
theorem same_judgeAt (a b : Object) :
    ((builtin d).judgeAt d p (n + 5)).same (some a) (some b) = .ok (same d p a b) := by
  by_cases hkind : a.kind = b.kind
  · cases a <;> cases b <;> try cases hkind
    · next a b => simpa [same, alike] using same_catalog (n := n + 4) a b
    · next a b => simpa [same, alike] using same_schema (n := n + 3) a b
    · next a b => simpa [same, alike] using same_table (n := n + 2) a b
    · next a b => simpa [same, alike] using same_column (n := n + 1) a b
    · next a b =>
      exact same_judgeAt_of_own (n := n + 4) (a := .index a) (b := .index b) rfl
        (same_groups (n := n) (Rule.Index.group (.index a) a) (Rule.Index.group (.index b) b))
    · next a b =>
      exact same_judgeAt_of_own (n := n + 4) (a := .primaryKey a) (b := .primaryKey b) rfl
        (same_primaryKey (n := n + 1) a b)
    · next a b =>
      exact same_judgeAt_of_own (n := n + 4) (a := .foreignKey a) (b := .foreignKey b) rfl
        (same_foreignKey (n := n + 1) a b)
    · next a b =>
      exact same_judgeAt_of_own (n := n + 4) (a := .uniqueConstraint a) (b := .uniqueConstraint b)
        rfl
        (same_groups (n := n) (Rule.UniqueConstraint.group (.uniqueConstraint a) a)
          (Rule.UniqueConstraint.group (.uniqueConstraint b) b))
  · have differ : a ≠ b := by
      rintro rfl
      exact hkind rfl
    rw [same_judgeAt_of_kind_ne (n := n + 4) hkind, same, alike_of_kind_ne hkind]
    simp [differ]

/-- The judge of the built-in rules tells of any two objects whether they are the same. -/
theorem judge_same (a b : Object) :
    ((builtin d).judge d p).same (some a) (some b) = .ok (same d p a b) :=
  same_judgeAt (n := 1) a b

theorem keys_table (t : Table) :
    ((builtin d).judgeAt d p (n + 1)).keys (.table t) = .ok (some [nameKey t.name]) := by
  rw [keys_judgeAt_succ]
  cases ht : t.name <;> simp [ownRule, Rule.table, Rule.Table.keys, Rule.expect, Object.table?,
    scopeAt, chain, Rule.generic, Rule.Generic.keys, Object.name, Object.kind, nameKey, ht]

theorem keys_group (name : Option String) (table : Option Table) :
    Rule.ColumnGroup.keys (scopeAt d p (n + 1)) name table = .ok (some (groupKeys name table)) := by
  unfold Rule.ColumnGroup.keys groupKeys
  cases table with
  | none => simp [Fallible.pure_eq]
  | some t =>
    simp [scopeAt, keys_table, Fallible.pure_eq]

theorem keys_primaryKey (k : PrimaryKey) :
    Rule.PrimaryKey.keys (scopeAt d p (n + 1)) (.primaryKey k) = .ok (primaryKeyKeys k) := by
  simp only [Rule.PrimaryKey.keys, Rule.expect, Object.primaryKey?, Fallible.ok_bind, scopeAt,
    keys_table, primaryKeyKeys, Rule.PrimaryKey.tableWithName]
  cases k.name with
  | none => cases k.table <;> rfl
  | some name =>
    cases k.table with
    | none => rfl
    | some t => cases ht : t.name <;> simp [ht, Option.filter, Fallible.pure_eq]

theorem keys_foreignKey (k : ForeignKey) :
    Rule.ForeignKey.keys (scopeAt d p (n + 1)) (.foreignKey k) = .ok (foreignKeyKeys k) := by
  simp only [Rule.ForeignKey.keys, Rule.expect, Object.foreignKey?, Fallible.ok_bind, scopeAt,
    keys_table, foreignKeyKeys]
  cases k.name with
  | none => cases k.foreignTable <;> rfl
  | some name => cases k.foreignTable.bind (·.name) <;> rfl

/-- The judge of the built-in rules knows the keys of every object. -/
theorem judge_keys (o : Object) : ((builtin d).judge d p).keys o = .ok (keysOf o) := by
  change ((builtin d).judgeAt d p 6).keys o = _
  rw [keys_judgeAt_succ (n := 5)]
  cases o with
  | catalog => rfl
  | schema => rfl
  | table t =>
    rw [← keys_judgeAt_succ]
    exact keys_table t
  | column => rfl
  | index i => exact keys_group (n := 4) i.name i.table
  | primaryKey k => exact keys_primaryKey (n := 4) k
  | foreignKey k => exact keys_foreignKey (n := 4) k
  | uniqueConstraint u => exact keys_group (n := 4) u.name u.table

end Rulebook

end SchemaDelta

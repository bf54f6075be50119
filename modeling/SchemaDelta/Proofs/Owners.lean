import SchemaDelta.Proofs.Identity

/-!
# Objects and the tables they belong to

Objects that are the same belong to the same table, as far as the tables are known and named. The
tests of a kind may leave out a part of what is known of tables: without both tables an index goes
by its name, and a foreign key of which an end is open by its name and the referring tables that
are named. But where both tables are there, each test begins with them. Foreign keys with all ends
known refer to the same table besides.

## Main definitions

* `Object.owner` — the table that an object belongs to.
-/

namespace SchemaDelta

/-- The table that an object belongs to; that of a foreign key is the referring one. -/
def Object.owner : Object → Option Table
  | column c => c.relation
  | index i => i.table
  | primaryKey k => k.table
  | foreignKey k => k.foreignTable
  | uniqueConstraint u => u.table
  | catalog _ | schema _ | table _ => none

variable {d : Dialect} {p : Policy}

namespace Identity

variable {t u : Table}

theorem tables_self (t : Table) : tables d p (some t) (some t) = true := by
  simp [tables, optional]

theorem tables_refl (t : Option Table) : tables d p t t = true := by
  cases t with
  | none => rfl
  | some t => exact tables_self t

/-- A table that is there and has a name is one that counts. -/
theorem filter_named {table : Option Table} (h : table = some t) (ht : t.name.isSome) :
    table.filter (·.name.isSome) = some t := by
  rw [h]
  exact Option.filter_some_pos ht

/-! ## Kind by kind -/

theorem tables_of_columnsAlike {a b : Column} (same : columnsAlike d p a b = true)
    (ha : a.relation = some t) (hb : b.relation = some u) :
    tables d p (some t) (some u) = true := by
  rw [columnsAlike, Bool.and_eq_true, Bool.and_eq_true, ha, hb] at same
  exact same.1.2

theorem tables_of_groupsAlike {a b : Rule.ColumnGroup} (same : groupsAlike d p a b = true)
    (ha : a.table = some t) (hb : b.table = some u) : tables d p (some t) (some u) = true := by
  have both : (a.table.isSome && b.table.isSome) = true := by simp [ha, hb]
  rw [groupsAlike, if_pos both, ha, hb, Bool.and_eq_true, Bool.and_eq_true] at same
  exact same.1.1

theorem tables_of_primaryKeysAlike {a b : PrimaryKey} (same : primaryKeysAlike d p a b = true)
    (ha : a.table = some t) (hb : b.table = some u) (ht : t.name.isSome) (hu : u.name.isSome) :
    tables d p (some t) (some u) = true := by
  rw [primaryKeysAlike, Rule.PrimaryKey.tableWithName, Rule.PrimaryKey.tableWithName,
    filter_named ha ht, filter_named hb hu] at same
  exact same

/-- Whether by what they link or by name, foreign keys that are the same have the same referring
table. -/
theorem tables_of_foreignKeysAlike {a b : ForeignKey} (same : foreignKeysAlike d p a b = true)
    (ha : a.foreignTable = some t) (hb : b.foreignTable = some u) (ht : t.name.isSome)
    (hu : u.name.isSome) : tables d p (some t) (some u) = true := by
  unfold foreignKeysAlike at same
  split at same
  · rw [foreignKeysByLink, ha, hb] at same
    simp only [Bool.and_eq_true] at same
    exact same.2.1
  · rw [foreignKeysByName, filter_named ha ht, filter_named hb hu, Bool.and_eq_true] at same
    exact same.1

theorem primaryTables_of_foreignKeysAlike {a b : ForeignKey}
    (same : foreignKeysAlike d p a b = true) (ha : a.foreignTable.isSome)
    (hb : b.foreignTable.isSome) (ha' : a.primaryTable = some t) (hb' : b.primaryTable = some u) :
    tables d p (some t) (some u) = true := by
  have resolved : (Rule.ForeignKey.isResolved a && Rule.ForeignKey.isResolved b) = true := by
    simp [Rule.ForeignKey.isResolved, ha, hb, ha', hb']
  rw [foreignKeysAlike, if_pos resolved, foreignKeysByLink, ha', hb'] at same
  simp only [Bool.and_eq_true] at same
  exact same.2.2

/-! ## All kinds -/

theorem owners_of_alike {a b : Object} (same : alike d p a b = true) (ha : a.owner = some t)
    (hb : b.owner = some u) (ht : t.name.isSome) (hu : u.name.isSome) :
    tables d p (some t) (some u) = true := by
  have hkind := Rulebook.kind_eq_of_alike same
  cases a <;> cases b <;> try cases hkind
  next => cases ha
  next => cases ha
  next => cases ha
  next => exact tables_of_columnsAlike same ha hb
  next => exact tables_of_groupsAlike same ha hb
  next => exact tables_of_primaryKeysAlike same ha hb ht hu
  next => exact tables_of_foreignKeysAlike same ha hb ht hu
  next => exact tables_of_groupsAlike same ha hb

theorem owners_of_same {a b : Object} (h : same d p a b = true) (ha : a.owner = some t)
    (hb : b.owner = some u) (ht : t.name.isSome) (hu : u.name.isSome) :
    tables d p (some t) (some u) = true := by
  rw [same, Bool.or_eq_true, decide_eq_true_iff] at h
  rcases h with rfl | alike
  · obtain rfl := Option.some.inj (ha.symm.trans hb)
    exact tables_self t
  · exact owners_of_alike alike ha hb ht hu

theorem primaryTables_of_same {a b : ForeignKey}
    (h : same d p (.foreignKey a) (.foreignKey b) = true) (ha : a.foreignTable.isSome)
    (hb : b.foreignTable.isSome) (ha' : a.primaryTable = some t) (hb' : b.primaryTable = some u) :
    tables d p (some t) (some u) = true := by
  rw [same, Bool.or_eq_true, decide_eq_true_iff] at h
  rcases h with one | alike
  · obtain rfl := Object.foreignKey.inj one
    obtain rfl := Option.some.inj (ha'.symm.trans hb')
    exact tables_self t
  · exact primaryTables_of_foreignKeysAlike alike ha hb ha' hb'

end Identity

open Rulebook

/-- Objects that are the same belong to the same table when both their tables are there and have
names, and foreign keys that are the same refer to the same table when all their tables are there:
the judge takes these tables for the same. -/
theorem judge_same_owners {a b : Object}
    (same : ((builtin d).judge d p).same (some a) (some b) = .ok true) :
    let j := (builtin d).judge d p
    (∀ t u, a.owner = some t → b.owner = some u → t.name.isSome → u.name.isSome →
      j.same (some (.table t)) (some (.table u)) = .ok true) ∧
    ∀ x y t u, a = .foreignKey x → b = .foreignKey y → x.foreignTable.isSome →
      y.foreignTable.isSome → x.primaryTable = some t → y.primaryTable = some u →
      j.same (some (.table t)) (some (.table u)) = .ok true := by
  intro j
  have linked (t u : Table) : j.same (some (.table t)) (some (.table u)) =
      .ok (Identity.tables d p (some t) (some u)) := same_tables (some t) (some u)
  rw [judge_same, Except.ok.injEq] at same
  constructor
  · intro t u ha hb ht hu
    rw [linked, Identity.owners_of_same same ha hb ht hu]
  · rintro x y t u rfl rfl hx hy hx' hy'
    rw [linked, Identity.primaryTables_of_same same hx hy hx' hy']

/-- A table of which no more than its name is known. -/
def namedTable (origin position : Nat) (name : String) : Table :=
  ⟨.entry origin .table position, some name, none, none, none, none, []⟩

/-- A column of which no more than its name is known. -/
def namedColumn (origin : Nat) (name : String) : Column :=
  { tag := .entry origin .column 0, name := some name, relation := none, dataType := none,
    nullable := none, defaultValue := none, remarks := none, order := none, computed := none,
    descending := none, autoIncrement := none, attributes := [] }

/-- A foreign key between two tables by a column of one name in both. -/
def namedLink (origin : Nat) (name foreign primary column : String) : ForeignKey :=
  { tag := .entry origin .foreignKey 0, name := some name
    foreignTable := some (namedTable origin 0 foreign)
    foreignColumns := [namedColumn origin column]
    primaryTable := some (namedTable origin 1 primary)
    primaryColumns := [namedColumn origin column]
    updateRule := none, deleteRule := none, deferrable := none, initiallyDeferred := none
    validate := none, backingIndex := none, attributes := [] }

theorem judge_same_owners_renamedLink :
    let j := (builtin .postgres).judge .postgres .standard
    let x := namedLink 0 "fk_user" "Orders" "users" "id"
    let y := namedLink 1 "orders_user_fkey" "orders" "USERS" "ID"
    j.same (some (.foreignKey x)) (some (.foreignKey y)) = .ok true ∧
      j.same (some (.table (namedTable 0 0 "Orders"))) (some (.table (namedTable 1 0 "orders"))) =
        .ok true ∧
      j.same (some (.table (namedTable 0 1 "users"))) (some (.table (namedTable 1 1 "USERS"))) =
        .ok true := by
  intro j x y
  have same : j.same (some (.foreignKey x)) (some (.foreignKey y)) = .ok true := by
    rw [judge_same]
    decide +kernel
  have owners := judge_same_owners same
  exact ⟨same, owners.1 _ _ rfl rfl rfl rfl, owners.2 _ _ _ _ rfl rfl rfl rfl rfl rfl⟩

end SchemaDelta

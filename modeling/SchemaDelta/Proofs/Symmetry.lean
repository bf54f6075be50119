import SchemaDelta.Proofs.Account
import SchemaDelta.Proofs.Identity
import SchemaDelta.Proofs.Trim

/-!
# Symmetry of identity

Below catalogs it does not matter which of two objects is asked about the other. The
rules of most kinds treat both sides alike. That of schemas does not: it exchanges a name
by an alias on one side, then on both, and tries the names of the alias in an order that
is different for the two sides. What it decides is symmetric nevertheless: a name that is
both names of an alias agrees with either, and a name that an exchange leads to is led
back by it, or agrees with the name it was exchanged for.

## Main definitions

* `Rule.containerKey` — names of containers agree when their keys are equal.
-/

namespace SchemaDelta

variable {d : Dialect} {p : Policy}

namespace Rule

/-! ## Names of containers -/

/-- A name of a container without what does not count in it. -/
def containerKey (d : Dialect) (name : Option String) : String :=
  let shown := (name.map Text.trim).getD ""
  if d.nameCase == .asWritten then shown else Text.lower shown

theorem containersAgree_iff {a b : Option String} :
    containersAgree d a b = true ↔ containerKey d a = containerKey d b := by
  unfold containersAgree containerKey
  cases d.nameCase == .asWritten <;> simp [Text.sameIgnoringCase]

theorem containersAgree_comm (a b : Option String) :
    containersAgree d a b = containersAgree d b a := by
  rw [Bool.eq_iff_iff, containersAgree_iff, containersAgree_iff, eq_comm]

/-- Names that are equal agree, for blanks around them are no part of their case. -/
theorem containerKey_eq_of_isNamed {a b : Option String} (h : Schema.isNamed d a b) :
    containerKey d a = containerKey d b := by
  unfold Schema.isNamed at h
  cases a with
  | none => cases h
  | some m =>
    cases b with
    | none => cases h
    | some n =>
      unfold containerKey
      cases hcase : d.nameCase == .asWritten with
      | true =>
        simp only [hcase, if_true, beq_iff_eq] at h
        rw [h]
      | false =>
        simp only [hcase, Bool.false_eq_true, if_false, Text.sameIgnoringCase, beq_iff_eq] at h
        have same := congrArg Text.trim h
        rw [Text.trim_lower, Text.trim_lower] at same
        simpa using same

/-! ## Aliases -/

namespace Schema

variable {name first second this that : Option String}

/-- A name that is one of a pair is exchanged for the other; any other name stays. -/
theorem exchange_cases (d : Dialect) (name first second : Option String) :
    (isNamed d first name ∧ exchange d name first second = second) ∨
      (isNamed d second name ∧ exchange d name first second = first) ∨
      exchange d name first second = name := by
  unfold exchange
  split
  · next h => exact .inl ⟨h, rfl⟩
  · split
    · next h => exact .inr (.inl ⟨h, rfl⟩)
    · exact .inr (.inr rfl)

/-- It does not matter which name of a pair is tried first: one that is both agrees with either. -/
theorem containerKey_exchange_comm (d : Dialect) (name first second : Option String) :
    containerKey d (exchange d name first second) =
      containerKey d (exchange d name second first) := by
  unfold exchange
  cases h₁ : isNamed d first name with
  | false => cases h₂ : isNamed d second name <;> simp
  | true =>
    cases h₂ : isNamed d second name with
    | false => simp
    | true =>
      have k₁ := containerKey_eq_of_isNamed h₁
      have k₂ := containerKey_eq_of_isNamed h₂
      simp [k₁, k₂]

/-- When exchanging `this` leads to `that`, the names agree, or exchanging `that` leads to `this`,
or to what `this` is exchanged for. -/
theorem exchange_leads_back
    (h : containerKey d (exchange d this first second) = containerKey d that) :
    containerKey d this = containerKey d that ∨
      containerKey d (exchange d that first second) = containerKey d this ∨
      containerKey d (exchange d that first second) =
        containerKey d (exchange d this first second) := by
  have key {a b : Option String} (h : isNamed d a b) := containerKey_eq_of_isNamed h
  rcases exchange_cases d that first second with ⟨named, led⟩ | ⟨named, led⟩ | stays
  · rcases exchange_cases d this first second with ⟨named', -⟩ | ⟨named', -⟩ | stays'
    · exact .inl ((key named').symm.trans (key named))
    · exact .inr (.inl (by rw [led]; exact key named'))
    · exact .inl (by rw [stays'] at h; exact h)
  · rcases exchange_cases d this first second with ⟨named', -⟩ | ⟨named', -⟩ | stays'
    · exact .inr (.inl (by rw [led]; exact key named'))
    · exact .inl ((key named').symm.trans (key named))
    · exact .inl (by rw [stays'] at h; exact h)
  · exact .inr (.inr (by rw [stays]; exact h.symm))

theorem aliased_iff {a : Alias} :
    aliased d this that a = true ↔
      containerKey d (exchange d this (aliasName d a.comparison) (aliasName d a.reference)) =
          containerKey d that ∨
        containerKey d (exchange d this (aliasName d a.comparison) (aliasName d a.reference)) =
          containerKey d (exchange d that (aliasName d a.reference) (aliasName d a.comparison)) := by
  simp only [aliased, Bool.or_eq_true, containersAgree_iff]

theorem isNamed_self (name : String) : isNamed d (some name) (some name) := by
  simp [isNamed, Text.sameIgnoringCase]

/-- An alias leads from its name on the reference side to its name on the other side. -/
theorem aliased_self {a : Alias} {r c : String} (hr : aliasName d a.reference = some r)
    (hc : aliasName d a.comparison = some c) : aliased d (some r) (some c) a := by
  rw [aliased_iff, hr, hc]
  refine .inl ?_
  unfold exchange
  split
  · next named => exact (containerKey_eq_of_isNamed named).symm
  · rw [if_pos (isNamed_self r)]

/-- An alias leads back, unless the names agree without it. -/
theorem aliased_symm {a : Alias} (h : aliased d this that a) :
    containersAgree d this that ∨ aliased d that this a := by
  rw [aliased_iff] at h ⊢
  rw [containersAgree_iff, containerKey_exchange_comm d this (aliasName d a.reference)]
  rw [containerKey_exchange_comm d that (aliasName d a.reference)] at h
  rcases h with one | both
  · exact exchange_leads_back one
  · exact .inr (.inr both.symm)

theorem agree_or_aliased_symm
    (h : containersAgree d this that || p.aliases.any (aliased d this that)) :
    containersAgree d that this || p.aliases.any (aliased d that this) := by
  rw [containersAgree_comm]
  simp only [Bool.or_eq_true, List.any_eq_true] at h ⊢
  rcases h with agree | ⟨a, ha, h⟩
  · exact .inl agree
  · rcases aliased_symm h with agree | back
    · exact .inl agree
    · exact .inr ⟨a, ha, back⟩

theorem sameSchema_comm (a b : SchemaDelta.Schema) : sameSchema d p a b = sameSchema d p b a := by
  have aliases (x y : Option String) :
      (containersAgree d x y || p.aliases.any (aliased d x y)) =
        (containersAgree d y x || p.aliases.any (aliased d y x)) := by
    rw [Bool.eq_iff_iff]
    exact ⟨agree_or_aliased_symm, agree_or_aliased_symm⟩
  unfold sameSchema
  dsimp only
  rw [containersAgree_comm (namespaceName d a), aliases (nameOrDefault d (namespaceName d a)),
    containersAgree_comm (standardName d a)]

end Schema

end Rule

/-! ## Kind by kind -/

theorem Text.sameIgnoringCase_comm (s t : String) :
    sameIgnoringCase s t = sameIgnoringCase t s := Bool.beq_comm

theorem Dialect.namesEqual_comm (m n : String) : d.namesEqual m n = d.namesEqual n m := by
  rw [namesEqual, namesEqual, Bool.beq_comm, Text.sameIgnoringCase_comm]

theorem Criterion.namesAgree_comm (m n : Option String) :
    namesAgree d m n = namesAgree d n m := by
  cases m <;> cases n <;> simp [namesAgree, Dialect.namesEqual_comm]

theorem Rule.namesMatch_comm (a b : Object) : namesMatch d a b = namesMatch d b a :=
  Criterion.namesAgree_comm _ _

namespace Identity

theorem optional_comm {α : Type} [DecidableEq α] {alike : α → α → Bool}
    (h : ∀ a b, alike a b = alike b a) (a b : Option α) :
    optional alike a b = optional alike b a := by
  cases a with
  | none => cases b <;> rfl
  | some a =>
    cases b with
    | none => rfl
    | some b => simp only [optional, h a b, eq_comm]

section

variable (hp : p.includeCatalog = false)
include hp

theorem schemas_comm (a b : Option Schema) : schemas d p a b = schemas d p b a :=
  optional_comm (fun a b => by simp [schemasAlike, hp, Rule.Schema.sameSchema_comm a b]) a b

theorem tablesAlike_comm (a b : Table) : tablesAlike d p a b = tablesAlike d p b a := by
  rw [tablesAlike, tablesAlike, Rule.namesMatch_comm, schemas_comm hp]

theorem tables_comm (a b : Option Table) : tables d p a b = tables d p b a :=
  optional_comm (tablesAlike_comm hp) a b

theorem columnsAlike_comm (a b : Column) : columnsAlike d p a b = columnsAlike d p b a := by
  rw [columnsAlike, columnsAlike, Rule.namesMatch_comm, tables_comm hp, Bool.beq_comm,
    Bool.beq_comm (a := a.isDescending)]

theorem columnLists_comm (as bs : List Column) : columnLists d p as bs = columnLists d p bs as := by
  induction as generalizing bs with
  | nil => cases bs <;> rfl
  | cons a as ih =>
    cases bs with
    | nil => rfl
    | cons b bs => simp only [columnLists, ih, columnsAlike_comm hp a b, eq_comm]

theorem inOtherSchema_comm (a b : Rule.ColumnGroup) :
    inOtherSchema d p a b = inOtherSchema d p b a := by
  rw [inOtherSchema, inOtherSchema, schemas_comm hp, Bool.and_comm b.schema.isSome]

theorem groupsByName_comm (a b : Rule.ColumnGroup) :
    groupsByName d p a b = groupsByName d p b a := by
  rw [groupsByName, groupsByName, Rule.namesMatch_comm, inOtherSchema_comm hp,
    Bool.and_comm (!b.columns.isEmpty), bne_comm]

theorem groupsOnTable_comm (a b : Rule.ColumnGroup) :
    groupsOnTable d p a b = groupsOnTable d p b a := by
  rw [groupsOnTable, groupsOnTable, Rule.namesMatch_comm, columnLists_comm hp,
    Bool.and_comm b.object.name.isSome, Bool.or_comm b.columns.isEmpty, Bool.beq_comm]

theorem groupsAlike_comm (a b : Rule.ColumnGroup) :
    groupsAlike d p a b = groupsAlike d p b a := by
  rw [groupsAlike, groupsAlike, tables_comm hp, inOtherSchema_comm hp, groupsOnTable_comm hp,
    groupsByName_comm hp, Bool.and_comm b.table.isSome]

theorem primaryKeysAlike_comm (a b : PrimaryKey) :
    primaryKeysAlike d p a b = primaryKeysAlike d p b a := by
  have linked (t u : Table) : tables d p (some t) (some u) = tables d p (some u) (some t) :=
    tables_comm hp (some t) (some u)
  unfold primaryKeysAlike
  cases Rule.PrimaryKey.tableWithName a.table <;> cases Rule.PrimaryKey.tableWithName b.table <;>
    cases Rule.PrimaryKey.foldedName a.name <;> cases Rule.PrimaryKey.foldedName b.name <;>
    simp [linked, Bool.beq_comm]

theorem foreignKeysByName_comm (a b : ForeignKey) :
    foreignKeysByName d p a b = foreignKeysByName d p b a := by
  have linked (t u : Table) : tables d p (some t) (some u) = tables d p (some u) (some t) :=
    tables_comm hp (some t) (some u)
  unfold foreignKeysByName
  cases a.foreignTable.filter (·.name.isSome) <;> cases b.foreignTable.filter (·.name.isSome) <;>
    cases a.name <;> cases b.name <;> simp [linked, Dialect.namesEqual_comm]

theorem foreignKeysByLink_comm (a b : ForeignKey) :
    foreignKeysByLink d p a b = foreignKeysByLink d p b a := by
  rw [foreignKeysByLink, foreignKeysByLink, tables_comm hp, tables_comm hp a.primaryTable,
    Dialect.namesEqual_comm, Dialect.namesEqual_comm (Rule.ForeignKey.nameList a.primaryColumns)]

theorem foreignKeysAlike_comm (a b : ForeignKey) :
    foreignKeysAlike d p a b = foreignKeysAlike d p b a := by
  rw [foreignKeysAlike, foreignKeysAlike, foreignKeysByLink_comm hp, foreignKeysByName_comm hp,
    Bool.and_comm (Rule.ForeignKey.isResolved b)]

/-- Below catalogs, being alike is symmetric. -/
theorem alike_comm {a b : Object} (ha : a.kind ≠ .catalog) (hb : b.kind ≠ .catalog) :
    alike d p a b = alike d p b a := by
  by_cases hkind : a.kind = b.kind
  · cases a <;> cases b <;> try cases hkind
    next a b => exact absurd rfl ha
    next a b => simp [alike, schemasAlike, hp, Rule.Schema.sameSchema_comm a b]
    next a b => exact tablesAlike_comm hp a b
    next a b => exact columnsAlike_comm hp a b
    next a b => exact groupsAlike_comm hp _ _
    next a b => exact primaryKeysAlike_comm hp a b
    next a b => exact foreignKeysAlike_comm hp a b
    next a b => exact groupsAlike_comm hp _ _
  · rw [Rulebook.alike_of_kind_ne hkind, Rulebook.alike_of_kind_ne (Ne.symm hkind)]

theorem same_comm {a b : Object} (ha : a.kind ≠ .catalog) (hb : b.kind ≠ .catalog) :
    same d p a b = same d p b a := by
  rw [same, same, alike_comm hp ha hb]
  simp only [eq_comm]

end

end Identity

open Rulebook in
/-- While catalogs take no part in telling objects apart, it does not matter which of two objects
below catalogs is asked about the other, whatever the aliases are. -/
theorem judge_same_comm (hp : p.includeCatalog = false) {a b : Object} (ha : a.kind ≠ .catalog)
    (hb : b.kind ≠ .catalog) :
    ((builtin d).judge d p).same (some a) (some b) =
      ((builtin d).judge d p).same (some b) (some a) := by
  rw [judge_same, judge_same, Identity.same, Identity.same, Identity.alike_comm hp ha hb]
  simp only [eq_comm]

/-- A policy with an alias that has blanks around its name on one side and no name on the other. -/
def salesDropped : Policy :=
  { Policy.standard with aliases := [⟨⟨none, some " Sales "⟩, ⟨none, none⟩⟩] }

open Rulebook in
theorem judge_same_comm_salesDropped :
    let j := (builtin .generic).judge .generic salesDropped
    j.same (some (bareSchema 0 0 " sales ")) (some (bareSchema 1 0 " ")) = .ok true ∧
      j.same (some (bareSchema 1 0 " ")) (some (bareSchema 0 0 " sales ")) = .ok true := by
  intro j
  have led : j.same (some (bareSchema 0 0 " sales ")) (some (bareSchema 1 0 " ")) = .ok true := by
    rw [judge_same]
    decide +kernel
  exact ⟨led, (judge_same_comm rfl (by decide) (by decide)).trans led⟩

end SchemaDelta

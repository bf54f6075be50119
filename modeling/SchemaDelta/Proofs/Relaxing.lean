import SchemaDelta.Proofs.Identity

/-!
# Relaxed settings

Below catalogs, what is the same stays the same when the settings of a run are relaxed: when there
are more aliases, in whatever order, when catalogs take no part any more, and when case no longer
counts in names. A relaxed setting may lead a pair of objects to another test than before, as when
two indexes that had to be compared by their columns now agree in name; but each test asks only
whether parts are the same, never whether they are not.

## Main definitions

* `Relaxes` — settings under which no more objects are told apart.
-/

namespace SchemaDelta

/-- The dialect with names that differ in case only taken for the same. -/
def Dialect.ignoringCase (d : Dialect) : Dialect := { d with caseSensitive := false }

/-- The settings `d'` and `p'` tell no more objects apart than `d` and `p` do. -/
structure Relaxes (d : Dialect) (p : Policy) (d' : Dialect) (p' : Policy) : Prop where
  dialect : d' = d ∨ d' = d.ignoringCase
  aliases : p.aliases ⊆ p'.aliases
  includeCatalog : p'.includeCatalog = true → p.includeCatalog = true

namespace Relaxes

variable {d d' : Dialect} {p p' : Policy} (h : Relaxes d p d' p')
include h

/-! ## Names -/

theorem namesEqual {m n : String} (same : d.namesEqual m n = true) :
    d'.namesEqual m n = true := by
  rcases h.dialect with rfl | rfl
  · exact same
  · unfold Dialect.namesEqual Dialect.ignoringCase at *
    cases hd : d.caseSensitive with
    | false => simpa [hd] using same
    | true =>
      have equal : m = n := by simpa [hd] using same
      simp [equal, Text.sameIgnoringCase]

theorem namesMatch {a b : Object} (same : Rule.namesMatch d a b = true) :
    Rule.namesMatch d' a b = true := by
  rcases h.dialect with rfl | rfl
  · exact same
  · cases hd : d.caseSensitive with
    | false =>
      have unchanged : d.ignoringCase = d := by rw [Dialect.ignoringCase, ← hd]
      rw [unchanged]
      exact same
    | true =>
      -- names that are equal as they are written are equal in any spelling
      have equal : a.name = b.name := by
        cases ha : a.name <;> cases hb : b.name <;>
          simp_all [Rule.namesMatch, Criterion.namesAgree, Dialect.namesEqual, Dialect.correctName]
      unfold Rule.namesMatch
      rw [equal]
      cases b.name <;> simp [Criterion.namesAgree, Dialect.namesEqual, Text.sameIgnoringCase]

theorem aliasesAny {q : Alias → Bool} (led : p.aliases.any q = true) :
    p'.aliases.any q = true := by
  obtain ⟨a, ha, led⟩ := List.any_eq_true.1 led
  exact List.any_eq_true.2 ⟨a, h.aliases ha, led⟩

/-! ## Containers -/

/-- While catalogs take part, two catalogs that are the same stay so. -/
theorem sameCatalog (included : p'.includeCatalog = true) {a b : Catalog}
    (same : Rule.Catalog.sameCatalog d p a b = true) :
    Rule.Catalog.sameCatalog d' p' a b = true := by
  have dialects : Rule.Catalog.sameCatalog d' p' a b = Rule.Catalog.sameCatalog d p' a b := by
    rcases h.dialect with rfl | rfl <;> rfl
  have names (c : Catalog) : Rule.Catalog.effectiveName p' c = Rule.Catalog.effectiveName p c := by
    simp [Rule.Catalog.effectiveName, included, h.includeCatalog included]
  rw [dialects]
  unfold Rule.Catalog.sameCatalog at same ⊢
  simp only [names]
  split
  · rfl
  · next levels =>
    rw [if_neg levels] at same
    split
    · next unnamed =>
      simp only [unnamed] at same
      exact same
    · next name named =>
      simp only [named, Bool.or_eq_true] at same ⊢
      exact same.imp_right h.aliasesAny

theorem sameSchema {a b : Schema} (same : Rule.Schema.sameSchema d p a b = true) :
    Rule.Schema.sameSchema d' p' a b = true := by
  have dialects : Rule.Schema.sameSchema d' p' a b = Rule.Schema.sameSchema d p' a b := by
    rcases h.dialect with rfl | rfl <;> rfl
  rw [dialects]
  simp only [Rule.Schema.sameSchema, Bool.or_eq_true] at same ⊢
  rcases same with (agree | agree | led) | standard
  · exact .inl (.inl agree)
  · exact .inl (.inr (.inl agree))
  · exact .inl (.inr (.inr (h.aliasesAny led)))
  · exact .inr standard

end Relaxes

/-! ## Kind by kind -/

namespace Identity

theorem optional_mono {α : Type} [DecidableEq α] {alike alike' : α → α → Bool}
    (h : ∀ a b, alike a b = true → alike' a b = true) {a b : Option α}
    (same : optional alike a b = true) : optional alike' a b = true := by
  cases a with
  | none => cases b <;> exact same
  | some a =>
    cases b with
    | none => exact same
    | some b =>
      simp only [optional, Bool.or_eq_true] at same ⊢
      exact same.imp_right (h a b)

variable {d d' : Dialect} {p p' : Policy} (h : Relaxes d p d' p')
include h

theorem schemasAlike_mono {a b : Schema} (same : schemasAlike d p a b = true) :
    schemasAlike d' p' a b = true := by
  simp only [schemasAlike, Bool.and_eq_true, Bool.or_eq_true, Bool.not_eq_true'] at same ⊢
  refine ⟨?_, h.sameSchema same.2⟩
  cases included : p'.includeCatalog with
  | false => exact .inl rfl
  | true =>
    have linked := same.1.resolve_left (by simp [h.includeCatalog included])
    exact .inr (optional_mono (fun _ _ => h.sameCatalog included) linked)

theorem schemas_mono {a b : Option Schema} (same : schemas d p a b = true) :
    schemas d' p' a b = true :=
  optional_mono (fun _ _ => schemasAlike_mono h) same

theorem tablesAlike_mono {a b : Table} (same : tablesAlike d p a b = true) :
    tablesAlike d' p' a b = true := by
  simp only [tablesAlike, Bool.and_eq_true] at same ⊢
  exact ⟨h.namesMatch same.1, schemas_mono h same.2⟩

theorem tables_mono {a b : Option Table} (same : tables d p a b = true) :
    tables d' p' a b = true :=
  optional_mono (fun _ _ => tablesAlike_mono h) same

theorem columnsAlike_mono {a b : Column} (same : columnsAlike d p a b = true) :
    columnsAlike d' p' a b = true := by
  rw [columnsAlike, Bool.and_eq_true, Bool.and_eq_true] at same ⊢
  exact ⟨⟨h.namesMatch same.1.1, tables_mono h same.1.2⟩, same.2⟩

theorem columnLists_mono {as bs : List Column} (same : columnLists d p as bs = true) :
    columnLists d' p' as bs = true := by
  induction as generalizing bs with
  | nil => cases bs <;> rfl
  | cons a as ih =>
    cases bs with
    | nil => rfl
    | cons b bs =>
      simp only [columnLists, Bool.and_eq_true, Bool.or_eq_true] at same ⊢
      exact ⟨same.1.imp_right (columnsAlike_mono h), ih same.2⟩

theorem inOtherSchema_mono {a b : Rule.ColumnGroup} (same : (!inOtherSchema d p a b) = true) :
    (!inOtherSchema d' p' a b) = true := by
  simp only [inOtherSchema, Bool.not_and, Bool.not_not, Bool.or_eq_true] at same ⊢
  exact same.imp_right (schemas_mono h)

theorem groupsByName_mono {a b : Rule.ColumnGroup} (same : groupsByName d p a b = true) :
    groupsByName d' p' a b = true := by
  rw [groupsByName, Bool.and_eq_true, Bool.and_eq_true] at same ⊢
  exact ⟨same.1, h.namesMatch same.2.1, inOtherSchema_mono h same.2.2⟩

/-- Groups with names that did not match may match now, and then their columns no longer count. -/
theorem groupsOnTable_mono {a b : Rule.ColumnGroup} (same : groupsOnTable d p a b = true) :
    groupsOnTable d' p' a b = true := by
  unfold groupsOnTable at same ⊢
  split
  · rfl
  · next unnamed' =>
    have unnamed : ¬(a.object.name.isSome && b.object.name.isSome &&
        Rule.namesMatch d a.object b.object) = true := by
      intro named
      simp only [Bool.and_eq_true] at named unnamed'
      exact unnamed' ⟨named.1, h.namesMatch named.2⟩
    rw [if_neg unnamed] at same
    split
    · next bare =>
      rw [if_pos bare] at same
      exact h.namesMatch same
    · next columns =>
      rw [if_neg columns, Bool.and_eq_true] at same
      rw [Bool.and_eq_true]
      exact ⟨same.1, columnLists_mono h same.2⟩

theorem groupsAlike_mono {a b : Rule.ColumnGroup} (same : groupsAlike d p a b = true) :
    groupsAlike d' p' a b = true := by
  unfold groupsAlike at same ⊢
  split
  · next both =>
    rw [if_pos both, Bool.and_eq_true, Bool.and_eq_true] at same
    rw [Bool.and_eq_true, Bool.and_eq_true]
    exact ⟨⟨tables_mono h same.1.1, inOtherSchema_mono h same.1.2⟩, groupsOnTable_mono h same.2⟩
  · next one =>
    rw [if_neg one] at same
    exact groupsByName_mono h same

theorem primaryKeysAlike_mono {a b : PrimaryKey} (same : primaryKeysAlike d p a b = true) :
    primaryKeysAlike d' p' a b = true := by
  unfold primaryKeysAlike at same ⊢
  cases ha : Rule.PrimaryKey.tableWithName a.table with
  | none =>
    rw [ha] at same
    exact same
  | some t =>
    cases hb : Rule.PrimaryKey.tableWithName b.table with
    | none =>
      rw [ha, hb] at same
      exact same
    | some u =>
      rw [ha, hb] at same
      exact tables_mono h same

theorem foreignKeysByName_mono {a b : ForeignKey} (same : foreignKeysByName d p a b = true) :
    foreignKeysByName d' p' a b = true := by
  rw [foreignKeysByName, Bool.and_eq_true] at same ⊢
  refine ⟨?_, ?_⟩
  · cases ha : a.foreignTable.filter (·.name.isSome) <;>
      cases hb : b.foreignTable.filter (·.name.isSome) <;> rw [ha, hb] at same
    case some.some => exact tables_mono h same.1
  · cases ha : a.name <;> cases hb : b.name <;> rw [ha, hb] at same
    case some.some => exact h.namesEqual same.2
    all_goals exact same.2

theorem foreignKeysByLink_mono {a b : ForeignKey} (same : foreignKeysByLink d p a b = true) :
    foreignKeysByLink d' p' a b = true := by
  simp only [foreignKeysByLink, Bool.and_eq_true] at same ⊢
  obtain ⟨⟨foreign, primary⟩, foreign', primary'⟩ := same
  exact ⟨⟨h.namesEqual foreign, h.namesEqual primary⟩, tables_mono h foreign',
    tables_mono h primary'⟩

theorem foreignKeysAlike_mono {a b : ForeignKey} (same : foreignKeysAlike d p a b = true) :
    foreignKeysAlike d' p' a b = true := by
  unfold foreignKeysAlike at same ⊢
  split
  · next resolved =>
    rw [if_pos resolved] at same
    exact foreignKeysByLink_mono h same
  · next open_ =>
    rw [if_neg open_] at same
    exact foreignKeysByName_mono h same

/-- Below catalogs, what is alike stays alike under relaxed settings. -/
theorem alike_mono {a b : Object} (below : a.kind ≠ .catalog) (same : alike d p a b = true) :
    alike d' p' a b = true := by
  have hkind := Rulebook.kind_eq_of_alike same
  cases a <;> cases b <;> try cases hkind
  next a b => exact absurd rfl below
  next a b => exact schemasAlike_mono h same
  next a b => exact tablesAlike_mono h same
  next a b => exact columnsAlike_mono h same
  next a b => exact groupsAlike_mono h same
  next a b => exact primaryKeysAlike_mono h same
  next a b => exact foreignKeysAlike_mono h same
  next a b => exact groupsAlike_mono h same

end Identity

open Rulebook in
/-- Below catalogs, two objects that the judge takes for the same under some settings are the same
under all settings that relax them. -/
theorem judge_same_of_relaxes {d d' : Dialect} {p p' : Policy} (h : Relaxes d p d' p')
    {a b : Object} (below : a.kind ≠ .catalog)
    (same : ((builtin d).judge d p).same (some a) (some b) = .ok true) :
    ((builtin d').judge d' p').same (some a) (some b) = .ok true := by
  rw [judge_same, Except.ok.injEq, Identity.same, Bool.or_eq_true] at same ⊢
  exact same.imp_right (Identity.alike_mono h below)

/-- An index of the column `id` of a table `orders` in a schema of the catalog `shop`. -/
def shopIndex (origin : Nat) (schema index : String) : Object :=
  let shop : Catalog := ⟨.entry origin .catalog 0, some "shop", false, []⟩
  let owner : Schema := ⟨.entry origin .schema 0, some schema, some shop, false, []⟩
  let orders : Table := ⟨.entry origin .table 0, some "orders", some owner, none, none, none, []⟩
  let id : Column :=
    { tag := .entry origin .column 0, name := some "id", relation := some orders, dataType := none,
      nullable := none, defaultValue := none, remarks := none, order := none, computed := none,
      descending := none, autoIncrement := none, attributes := [] }
  .index ⟨.entry origin .index 0, some index, some orders, none, [id], none, none, []⟩

/-- A policy with catalogs under which `sales` became `crm` and `dev` became `test`. -/
def salesAndDevRenamed : Policy :=
  { Policy.standard with
    aliases := [⟨.parse "sales", .parse "crm"⟩, ⟨.parse "dev", .parse "test"⟩]
    includeCatalog := true }

/-- The aliases the other way round and with one more between them, and without catalogs. -/
def threeRenamed : Policy :=
  { Policy.standard with
    aliases := [⟨.parse "dev", .parse "test"⟩, ⟨.parse "east", .parse "west"⟩,
      ⟨.parse "sales", .parse "crm"⟩] }

/-- Under the strict settings the indexes are the same by their columns, then by their names. -/
theorem judge_same_of_relaxes_shopIndex :
    let strict : Dialect := { Dialect.generic with caseSensitive := true }
    let a := shopIndex 0 "sales" "Ix"
    let b := shopIndex 1 "crm" "ix"
    Rule.namesMatch strict a b = false ∧ Rule.namesMatch strict.ignoringCase a b = true ∧
      ((Rulebook.builtin strict).judge strict salesAndDevRenamed).same (some a) (some b) =
        .ok true ∧
      ((Rulebook.builtin strict.ignoringCase).judge strict.ignoringCase threeRenamed).same
        (some a) (some b) = .ok true := by
  intro strict a b
  have relaxes : Relaxes strict salesAndDevRenamed strict.ignoringCase threeRenamed :=
    ⟨.inr rfl, by decide, by decide⟩
  have same : ((Rulebook.builtin strict).judge strict salesAndDevRenamed).same (some a) (some b) =
      .ok true := by
    rw [Rulebook.judge_same]
    decide +kernel
  exact ⟨by decide +kernel, by decide +kernel, same,
    judge_same_of_relaxes relaxes (by decide) same⟩

end SchemaDelta

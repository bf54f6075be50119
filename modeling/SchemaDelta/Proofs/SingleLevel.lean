import SchemaDelta.Proofs.OneWay

/-!
# One level of containers

A dialect may have catalogs only, or schemas only. In neither case are schemas told apart by names
of their own: with catalogs only, a schema goes by the name of its catalog, and without catalogs
standard forms are empty, so that any two schemas agree in them. What keeps schemas apart, and the
tables and columns in them, are catalogs with names that differ.

## Main definitions

* `Apart` — two objects that the judge tells apart and that no run pairs.
-/

namespace SchemaDelta

variable {d : Dialect} {p : Policy}

/-! ## Names -/

theorem Dialect.hasSchemas_eq_false (one : d.hasCatalogs ≠ d.hasSchemas)
    (hcatalogs : d.hasCatalogs = true) : d.hasSchemas = false := by
  rw [hcatalogs] at one
  simpa using one.symm

namespace Rule.Schema

/-- Two ASCII names that are not blank, and differ in more than case and blanks around them. -/
structure OtherNames (m n : String) : Prop where
  ascii : Text.Ascii m
  ascii' : Text.Ascii n
  shown : Text.trim m ≠ ""
  shown' : Text.trim n ≠ ""
  differ : Text.lower (Text.trim m) ≠ Text.lower (Text.trim n)

variable {x y : SchemaDelta.Schema} {m n : String}

/-- Without catalogs there are no standard forms. -/
theorem standardName_of_no_catalogs (hd : d.hasCatalogs = false) (s : SchemaDelta.Schema) :
    standardName d s = none := by
  rw [standardName, Container.standardize, if_pos (by simp [hd])]

/-- Without schemas the name of the catalog has the standard form, unless it is the default one. -/
theorem standardName_of_catalog (hcatalogs : d.hasCatalogs = true) (hschemas : d.hasSchemas = false)
    (hx : x.catalogName = some m) (shown : Text.trim m ≠ "") : standardName d x =
      if Container.isDefaultName (some (Text.trim m)) d.defaultCatalog then none
      else some (d.nameCase.apply (Text.trim m)) := by
  have kept : Container.trimName (some m) = some (Text.trim m) :=
    Option.filter_some_pos (by simp [shown])
  simp only [standardName, Container.standardize, hcatalogs, hschemas, hx, kept, Bool.not_true,
    Bool.not_false, Bool.false_eq_true, if_false, if_true, Option.some_or]
  split <;> rfl

theorem plainKey_apply_trim (ascii : Text.Ascii n) :
    Catalog.plainKey (some (d.nameCase.apply (Text.trim n))) = Text.lower (Text.trim n) := by
  change Text.lower (Text.trim _) = _
  rw [NameCase.trim_apply, Text.trim_trim, NameCase.lower_apply _ (Text.ascii_trim ascii)]

/-- Names of catalogs that differ have standard forms that differ. -/
theorem standardName_apart (hcatalogs : d.hasCatalogs = true) (hschemas : d.hasSchemas = false)
    (hx : x.catalogName = some m) (hy : y.catalogName = some n) (other : OtherNames m n) :
    containersAgree d (standardName d x) (standardName d y) = false := by
  rw [Bool.eq_false_iff]
  intro agree
  have same := Catalog.plainKey_eq_of_containersAgree agree
  rw [standardName_of_catalog hcatalogs hschemas hx other.shown,
    standardName_of_catalog hcatalogs hschemas hy other.shown'] at same
  split at same <;> split at same
  · next default default' =>
    -- both are the default name, and differ
    cases hdefault : d.defaultCatalog with
    | none => simp [hdefault, Container.isDefaultName] at default
    | some name =>
      rw [hdefault] at default default'
      exact other.differ ((beq_iff_eq.1 default).trans (beq_iff_eq.1 default').symm)
  · rw [plainKey_apply_trim other.ascii', Catalog.plainKey_none] at same
    exact other.shown' (Text.lower_eq_empty_iff.1 same.symm)
  · rw [plainKey_apply_trim other.ascii, Catalog.plainKey_none] at same
    exact other.shown (Text.lower_eq_empty_iff.1 same)
  · rw [plainKey_apply_trim other.ascii, plainKey_apply_trim other.ascii'] at same
    exact other.differ same

/-! ## Schemas -/

/-- On a single level schemas without a catalog agree, whatever their names are. -/
theorem sameSchema_of_no_catalog (one : d.hasCatalogs ≠ d.hasSchemas)
    (h : d.hasCatalogs = false ∨ x.catalog = none ∧ y.catalog = none) :
    sameSchema d p x y = true := by
  have agree : containersAgree d none none = true := containersAgree_iff.2 rfl
  by_cases hd : d.hasCatalogs = true
  · have hschemas := Dialect.hasSchemas_eq_false one hd
    obtain ⟨hx, hy⟩ := h.resolve_left (by simp [hd])
    simp [sameSchema, namespaceName, hschemas, hd, SchemaDelta.Schema.catalogName, hx, hy, agree]
  · have hd : d.hasCatalogs = false := by simpa using hd
    rw [sameSchema, standardName_of_no_catalogs hd, standardName_of_no_catalogs hd, agree,
      Bool.or_true]

/-- Without schemas as a level and without aliases, the names of catalogs keep schemas apart. -/
theorem sameSchema_of_other_catalogs (hcatalogs : d.hasCatalogs = true)
    (hschemas : d.hasSchemas = false) (ha : p.aliases = []) (hx : x.catalogName = some m)
    (hy : y.catalogName = some n) (other : OtherNames m n) : sameSchema d p x y = false := by
  have names : containersAgree d (some m) (some n) = false := by
    rw [Bool.eq_false_iff]
    intro agree
    have same := Catalog.plainKey_eq_of_containersAgree agree
    exact other.differ same
  have standard := standardName_apart hcatalogs hschemas hx hy other
  simp [sameSchema, namespaceName, nameOrDefault, hcatalogs, hschemas, ha, hx, hy, names, standard]

end Rule.Schema

/-! ## What is in the schemas -/

/-- The judge tells the objects apart, and no run pairs them. -/
structure Apart (j : Judge) (p : Policy) (a b : Object) : Prop where
  judged : j.same (some a) (some b) = .ok false
  unpaired {R C : Snapshot} {f : Findings} {k : Kind} {m : Pairing (R.ofKind k) (C.ofKind k)} :
    m.Explains j p f → (a, b) ∉ m.pairs

theorem apart_of_same_eq_ok_false {j : Judge} {a b : Object}
    (h : j.same (some a) (some b) = .ok false) : Apart j p a b where
  judged := h
  unpaired {R C f k m} explains paired := by
    obtain ⟨i, q, partner, rfl, rfl⟩ := Pairing.mem_pairs.1 paired
    rw [explains.settles.same partner] at h
    cases h

open Rulebook Identity

open Rule.Schema (OtherNames sameSchema sameSchema_of_no_catalog sameSchema_of_other_catalogs)

section

variable {x y : Schema} {t u : Table} (ht : t.schema = some x) (hu : u.schema = some y)
include ht hu

/-- Tables in schemas that are the same are the same when their names are. -/
theorem judge_same_tables (h : schemas d p (some x) (some y) = true) :
    ((builtin d).judge d p).same (some (.table t)) (some (.table u)) =
      .ok (Rule.namesMatch d (.table t) (.table u)) := by
  rw [judge_same, same, alike, tablesAlike, ht, hu, h, Bool.and_true]
  by_cases one : Object.table t = .table u
  · rw [one, Rule.namesMatch, Differences.namesAgree_self]
    simp
  · simp [one]

/-- Tables and columns in schemas that are apart are apart. -/
theorem apart_of_schemas (h : schemas d p (some x) (some y) = false) :
    Apart ((builtin d).judge d p) p (.table t) (.table u) ∧
      ∀ b c : Column, b.relation = some t → c.relation = some u →
        Apart ((builtin d).judge d p) p (.column b) (.column c) := by
  have distinct : t ≠ u := by
    rintro rfl
    obtain rfl := Option.some.inj (ht.symm.trans hu)
    simp [schemas, Identity.optional] at h
  have alikeTables : tablesAlike d p t u = false := by
    rw [tablesAlike, ht, hu, h, Bool.and_false]
  refine ⟨apart_of_same_eq_ok_false ?_, fun b c hb hc => apart_of_same_eq_ok_false ?_⟩
  · rw [judge_same, same, alike, alikeTables]
    simp [distinct]
  · have distinctColumns : b ≠ c := by
      rintro rfl
      exact distinct (Option.some.inj (hb.symm.trans hc))
    rw [judge_same, same, alike, columnsAlike, hb, hc]
    simp [distinctColumns, tables, Identity.optional, distinct, alikeTables]

end

/-- On a single level of containers schemas without catalogs are all the same, so that tables in
them are the same when their names are; without catalogs as a level they are so in any case. What
keeps schemas apart there, and the tables and columns in them, are catalogs of other names. -/
theorem catalogs_keep_apart (one : d.hasCatalogs ≠ d.hasSchemas) (ha : p.aliases = [])
    (hp : p.includeCatalog = false) (x y : Schema) :
    let j := (builtin d).judge d p
    (d.hasCatalogs = false ∨ x.catalog = none ∧ y.catalog = none →
      j.same (some (.schema x)) (some (.schema y)) = .ok true ∧
      ∀ t u : Table, t.schema = some x → u.schema = some y →
        j.same (some (.table t)) (some (.table u)) =
          .ok (Rule.namesMatch d (.table t) (.table u))) ∧
    ∀ m n, d.hasCatalogs = true → x.catalogName = some m → y.catalogName = some n →
      OtherNames m n → Apart j p (.schema x) (.schema y) ∧
      ∀ t u : Table, t.schema = some x → u.schema = some y →
        Apart j p (.table t) (.table u) ∧
        ∀ b c : Column, b.relation = some t → c.relation = some u →
          Apart j p (.column b) (.column c) := by
  intro j
  have answer : j.same (some (.schema x)) (some (.schema y)) =
      .ok (schemas d p (some x) (some y)) := same_schema x y
  have known : schemas d p (some x) (some y) = (decide (x = y) || sameSchema d p x y) := by
    simp [schemas, Identity.optional, schemasAlike, hp]
  constructor
  · intro bare
    have same : schemas d p (some x) (some y) = true := by
      rw [known, sameSchema_of_no_catalog one bare, Bool.or_true]
    exact ⟨by rw [answer, same], fun t u ht hu => judge_same_tables ht hu same⟩
  · intro m n hcatalogs hx hy other
    have hschemas := Dialect.hasSchemas_eq_false one hcatalogs
    have distinct : x ≠ y := by
      rintro rfl
      obtain rfl := Option.some.inj (hx.symm.trans hy)
      exact other.differ rfl
    have apart : schemas d p (some x) (some y) = false := by
      rw [known, sameSchema_of_other_catalogs hcatalogs hschemas ha hx hy other]
      simp [distinct]
    exact ⟨apart_of_same_eq_ok_false (by rw [answer, apart]),
      fun t u ht hu => apart_of_schemas ht hu apart⟩

/-- A schema of which no more is known than its name and that of the catalog it is linked to. -/
def linkedSchema (position : Nat) (catalog : Option String) (name : String) : Schema :=
  let link (n : String) : Catalog := ⟨.entry 0 .catalog position, some n, false, []⟩
  ⟨.entry 0 .schema position, some name, catalog.map link, false, []⟩

/-- The table `orders` of a schema. -/
def ordersIn (position : Nat) (s : Schema) : Table :=
  ⟨.entry 0 .table position, some "orders", some s, none, none, none, []⟩

theorem catalogs_keep_apart_mysql :
    let j := (builtin .mysql).judge .mysql .standard
    let bare := linkedSchema 0 none "sales"
    let other := linkedSchema 1 none "hr"
    let shop := linkedSchema 0 (some " shop ") "sales"
    let crm := linkedSchema 1 (some "crm") "sales"
    j.same (some (.table (ordersIn 0 bare))) (some (.table (ordersIn 1 other))) = .ok true ∧
      Apart j .standard (.schema shop) (.schema crm) ∧
      Apart j .standard (.table (ordersIn 0 shop)) (.table (ordersIn 1 crm)) := by
  intro j bare other shop crm
  have keep := catalogs_keep_apart (d := .mysql) (p := .standard) (by decide) rfl rfl
  have apart := (keep shop crm).2 " shop " "crm" rfl rfl rfl
    ⟨by decide +kernel, by decide +kernel, by decide +kernel, by decide +kernel, by decide +kernel⟩
  refine ⟨?_, apart.1, (apart.2 _ _ rfl rfl).1⟩
  rw [((keep bare other).1 (.inr ⟨rfl, rfl⟩)).2 _ _ rfl rfl]
  decide +kernel

/-- The dialect has one level of containers and no default names, and two schemas of other names are
the same, as are tables of one name in them. -/
def MergesSchemas (d : Dialect) : Prop :=
  let j := (builtin d).judge d .standard
  let sales := linkedSchema 0 none "sales"
  let hr := linkedSchema 1 none "hr"
  d.hasCatalogs ≠ d.hasSchemas ∧ d.defaultCatalog = none ∧ d.defaultSchema = none ∧
    OtherNames "sales" "hr" ∧ j.same (some (.schema sales)) (some (.schema hr)) = .ok true ∧
    j.same (some (.table (ordersIn 0 sales))) (some (.table (ordersIn 1 hr))) = .ok true

/-- Schemas are merged with catalogs only, and with schemas only. -/
theorem schemas_merged_on_one_level :
    MergesSchemas .mysql ∧ MergesSchemas { Dialect.generic with hasCatalogs := false } := by
  have other : OtherNames "sales" "hr" :=
    ⟨by decide +kernel, by decide +kernel, by decide +kernel, by decide +kernel, by decide +kernel⟩
  refine ⟨⟨by decide, rfl, rfl, other, ?_, ?_⟩, by decide, rfl, rfl, other, ?_, ?_⟩ <;>
  · rw [judge_same]
    decide +kernel

end SchemaDelta

import SchemaDelta.Proofs.SingleLevel
import SchemaDelta.Proofs.Unmentioned

/-!
# Aliases of qualified names

An alias may give a catalog and a schema on either side. Where catalogs take part in telling objects
apart, it leads from the one schema to the other, so that they are the same exactly when the two
catalogs are, and so are tables of one name in them. For catalogs it works at one level only. In a
dialect without schemas it leads from the one catalog to the other, unless the name of one of them
alone is the default one and thereby none at all. In a dialect with schemas the names tried for
catalogs are those of the schemas of an alias: what it says of catalogs is not looked at.

## Main definitions

* `Schema.QualifiedBy` — a schema with the names that one side of an alias gives.
* `Alias.ofSchemas` — an alias without what it says of catalogs.
* `Rule.Catalog.StableName` — a name whose case comes out the same in the dialect's spelling.
-/

namespace SchemaDelta

variable {d : Dialect} {p : Policy} {c₁ s₁ c₂ s₂ : String}

/-- The schema has the name `n`, and the catalog that it is linked to the name `m`. -/
structure Schema.QualifiedBy (s : Schema) (c : Catalog) (m n : String) : Prop where
  link : s.catalog = some c
  catalog : c.name = some m
  schema : s.name = some n

/-- The alias of two qualified names. -/
def Alias.qualified (c₁ s₁ c₂ s₂ : String) : Alias := ⟨⟨some c₁, some s₁⟩, ⟨some c₂, some s₂⟩⟩

/-! ## Schemas -/

namespace Rule.Schema

/-- The dialect knows a schema by the one of its two names by which it knows containers. -/
theorem namespaceName_of_qualifiedBy (hd : d.hasCatalogs = true) {s : SchemaDelta.Schema}
    {c : SchemaDelta.Catalog} {m n : String} (h : s.QualifiedBy c m n) :
    namespaceName d s = aliasName d ⟨some m, some n⟩ := by
  cases hs : d.hasSchemas <;>
    simp [namespaceName, aliasName, hd, hs, SchemaDelta.Schema.catalogName, h.link, h.catalog,
      h.schema]

/-- An alias of qualified names leads from a schema of the one to a schema of the other. -/
theorem sameSchema_of_qualified (hd : d.hasCatalogs = true)
    (hx : .qualified c₁ s₁ c₂ s₂ ∈ p.aliases) {a b : SchemaDelta.Schema}
    {ca cb : SchemaDelta.Catalog} (ha : a.QualifiedBy ca c₁ s₁) (hb : b.QualifiedBy cb c₂ s₂) :
    sameSchema d p a b = true := by
  have known (m n : String) : ∃ name, aliasName d ⟨some m, some n⟩ = some name := by
    cases hs : d.hasSchemas <;> simp [aliasName, hd, hs]
  obtain ⟨r, hr⟩ := known c₁ s₁
  obtain ⟨c, hc⟩ := known c₂ s₂
  have led : p.aliases.any (aliased d (some r) (some c)) = true :=
    List.any_eq_true.2 ⟨_, hx, aliased_self hr hc⟩
  simp [sameSchema, namespaceName_of_qualifiedBy hd ha, namespaceName_of_qualifiedBy hd hb, hr, hc,
    nameOrDefault, led]

end Rule.Schema

/-! ## What is in the catalogs -/

namespace Identity

/-- Objects that are alike exactly when what they are linked to is the same are the same exactly
then. -/
theorem optional_eq_of_linked {α β : Type} [DecidableEq α] [DecidableEq β]
    {alike : α → α → Bool} {alike' : β → β → Bool} {link : α → Option β} {a b : α} {x y : β}
    (ha : link a = some x) (hb : link b = some y)
    (h : alike a b = optional alike' (some x) (some y)) :
    optional alike (some a) (some b) = optional alike' (some x) (some y) := by
  by_cases one : a = b
  · subst one
    obtain rfl := Option.some.inj (ha.symm.trans hb)
    simp [optional]
  · rw [optional, h]
    simp [one]

variable {a b : Schema} {ca cb : Catalog}

/-- Schemas that are alike by name are the same exactly when their catalogs are. -/
theorem schemas_eq_catalogs (hp : p.includeCatalog = true) (ha : a.catalog = some ca)
    (hb : b.catalog = some cb) (named : Rule.Schema.sameSchema d p a b = true) :
    schemas d p (some a) (some b) = catalogs d p (some ca) (some cb) := by
  refine optional_eq_of_linked ha hb ?_
  simp [schemasAlike, hp, ha, hb, named, catalogs]

/-- Tables of matching names are the same exactly when their schemas are. -/
theorem tables_eq_schemas {t u : Table} (ht : t.schema = some a) (hu : u.schema = some b)
    (named : Rule.namesMatch d (.table t) (.table u) = true) :
    tables d p (some t) (some u) = schemas d p (some a) (some b) := by
  refine optional_eq_of_linked ht hu ?_
  simp [tablesAlike, ht, hu, named, schemas]

end Identity

/-! ## Catalogs -/

/-- The alias without the names of catalogs. -/
def Alias.ofSchemas (x : Alias) : Alias := ⟨⟨none, x.reference.schema⟩, ⟨none, x.comparison.schema⟩⟩

namespace Rule.Catalog

variable {m n : String} {a b : SchemaDelta.Catalog}

/-- A name that is not empty, has no blanks around it, and has its case alone changed by the
dialect's spelling. -/
structure StableName (d : Dialect) (n : String) : Prop where
  trimmed : Text.trim n = n
  nonempty : n ≠ ""
  stable : Text.lower (d.nameCase.apply n) = Text.lower n

theorem stableName_of_ascii (ascii : Text.Ascii n) (trimmed : Text.trim n = n) (ne : n ≠ "") :
    StableName d n :=
  ⟨trimmed, ne, NameCase.lower_apply _ ascii⟩

theorem StableName.plainKey_eq (h : StableName d n) : plainKey (some n) = Text.lower n :=
  congrArg Text.lower h.trimmed

/-- Up to case the name is that of the default catalog. -/
def IsDefaultName (d : Dialect) (n : String) : Prop :=
  ∃ default ∈ d.defaultCatalog, Text.lower n = Text.lower default

theorem IsDefaultName.congr (h : Text.lower m = Text.lower n) :
    IsDefaultName d m ↔ IsDefaultName d n := by
  rw [IsDefaultName, IsDefaultName, h]

/-- A stable name is that of the catalog, also where the default catalog is recognized. -/
structure Named (d : Dialect) (p : Policy) (c : SchemaDelta.Catalog) (n : String) : Prop
    extends StableName d n where
  effective : effectiveName p c = some n

namespace Named

variable (ha : Named d p a m) (hb : Named d p b n)

include ha in
theorem plainKey_effectiveName : plainKey (effectiveName p a) = Text.lower m := by
  rw [ha.effective, ha.toStableName.plainKey_eq]

include ha in
theorem goesBy_eq_none_iff (hd : d.hasCatalogs = true) :
    goesBy d p a = none ↔ IsDefaultName d m := by
  rw [goesBy, standardName_eq_none_iff hd, ha.plainKey_effectiveName]
  exact or_iff_right (mt Text.lower_eq_empty_iff.1 ha.nonempty)

include ha in
theorem lower_of_goesBy {shown : String} (h : goesBy d p a = some shown) :
    Text.lower shown = Text.lower m := by
  obtain ⟨_, given, -, rfl⟩ := exists_of_standardName h
  obtain rfl := Option.some.inj (ha.effective.symm.trans given)
  rw [ha.trimmed, ha.stable]

include ha in
theorem not_mentions_goesBy {x : Alias} (h : ¬x.Mentions d (some m)) :
    ¬x.Mentions d (goesBy d p a) := by
  have given := name_of_effectiveName ha.effective
  refine Catalog.not_mentions_goesBy (given ▸ h) fun n hn => ?_
  obtain rfl := Option.some.inj (given.symm.trans hn)
  rw [ha.trimmed, ha.stable]

end Named

/-- Catalogs without a name in standard form are the same as each other; those with a name as
catalogs without one only where an alias takes the name away. -/
theorem sameCatalog_iff_of_led (led : ∀ m n, goesBy d p a = some m → goesBy d p b = some n →
      sameCatalog d p a b = true) :
    sameCatalog d p a b = true ↔
      (goesBy d p a = none ↔ goesBy d p b = none) ∨ OneWay d p b a := by
  unfold goesBy at led ⊢
  cases ha : standardName d (effectiveName p a) with
  | none =>
    cases hb : standardName d (effectiveName p b) with
    | none => simp [sameCatalog, ha, hb]
    | some n => simp [(sameCatalog_of_unnamed ha hb).1, OneWay, hb]
  | some m =>
    cases hb : standardName d (effectiveName p b) with
    | none => simp [(sameCatalog_of_unnamed hb ha).2, OneWay, ha, hb]
    | some n => simp [led m n ha hb]

/-! ### One level -/

/-- Without schemas as a level, an alias exchanges the one catalog name for the other. -/
theorem plainKey_exchangeBy_qualified (hd : d.hasCatalogs = true) (hs : d.hasSchemas = false)
    (h₁ : StableName d c₁) (h₂ : StableName d c₂) (hm : Text.lower m = Text.lower c₁) :
    plainKey (exchangeBy d (.qualified c₁ s₁ c₂ s₂) (some m)) = Text.lower c₂ := by
  have known (c s : String) : aliasName d ⟨some c, some s⟩ = some c := by simp [aliasName, hd, hs]
  have found : presentAndSame (some c₁) (some m) = true := presentAndSame_iff.2 ⟨c₁, rfl, hm.symm⟩
  rw [exchangeBy, Alias.qualified, known, known, exchange, if_pos found]
  split
  · next second =>
    -- both names of the alias are the one that is exchanged
    obtain ⟨_, ⟨⟩, same⟩ := presentAndSame_iff.1 second
    rw [h₁.plainKey_eq, same, hm]
  · exact h₂.plainKey_eq

/-- Without schemas as a level, an alias leads from a catalog of its one name to a catalog of its
other name, and back, unless one of the names is the default one and the other is not. -/
theorem sameCatalog_iff_of_qualified (hd : d.hasCatalogs = true) (hs : d.hasSchemas = false)
    (hx : .qualified c₁ s₁ c₂ s₂ ∈ p.aliases) (ha : Named d p a c₁) (hb : Named d p b c₂) :
    (sameCatalog d p a b = true ↔ (IsDefaultName d c₁ ↔ IsDefaultName d c₂) ∨ OneWay d p b a) ∧
      (sameCatalog d p b a = true ↔
        (IsDefaultName d c₁ ↔ IsDefaultName d c₂) ∨ OneWay d p a b) := by
  have led (m n : String) (hm : goesBy d p a = some m) (hn : goesBy d p b = some n) :
      sameCatalog d p a b = true := by
    rw [sameCatalog_of_goesBy hm, Bool.or_eq_true, List.any_eq_true]
    refine .inr ⟨_, hx, aliased_iff.2 (.inl ?_)⟩
    rw [plainKey_exchangeBy_qualified hd hs ha.toStableName hb.toStableName (ha.lower_of_goesBy hm),
      hn, (plainKey_of_standardName hn).1, hb.lower_of_goesBy hn]
  rw [← ha.goesBy_eq_none_iff hd, ← hb.goesBy_eq_none_iff hd]
  constructor
  · exact sameCatalog_iff_of_led led
  · rw [iff_comm (a := goesBy d p a = none)]
    exact sameCatalog_iff_of_led fun n m hn hm => sameCatalog_symm_of_named hm hn (led m n hm hn)

/-! ### Two levels -/

/-- With schemas as a level, the names of catalogs in aliases are not looked at. -/
theorem sameCatalog_ofSchemas (hs : d.hasSchemas = true) :
    sameCatalog d { p with aliases := p.aliases.map Alias.ofSchemas } a b =
      sameCatalog d p a b := by
  have same (this that : Option String) :
      aliased d this that ∘ Alias.ofSchemas = aliased d this that := by
    funext x
    simp [aliased, Alias.ofSchemas, aliasName, hs]
  simp only [sameCatalog, List.any_map, same]
  rfl

/-- Where no alias mentions them, stable names are of one catalog when they are equal up to case or
both the default one. -/
theorem sameCatalog_iff_of_not_mentions (hd : d.hasCatalogs = true) (hne : p.aliases ≠ [])
    (ha : Named d p a m) (hb : Named d p b n)
    (apart : ∀ x ∈ p.aliases, ¬x.Mentions d (some m) ∧ ¬x.Mentions d (some n)) :
    sameCatalog d p a b = true ↔
      Text.lower m = Text.lower n ∨ IsDefaultName d m ∧ IsDefaultName d n := by
  cases hm : goesBy d p a with
  | none =>
    have default := (ha.goesBy_eq_none_iff hd).1 hm
    rw [sameCatalog_of_goesBy_eq_none hd hm, Option.isNone_iff_eq_none, hb.goesBy_eq_none_iff hd]
    constructor
    · exact fun default' => .inr ⟨default, default'⟩
    · rintro (same | ⟨-, default'⟩)
      · exact (IsDefaultName.congr same).1 default
      · exact default'
  | some shown =>
    have named : ¬IsDefaultName d m := by
      rw [← ha.goesBy_eq_none_iff hd, hm]
      exact Option.some_ne_none _
    rw [sameCatalog_of_goesBy hm, Bool.or_eq_true, List.any_eq_true]
    have asked (x : Alias) (hx : x ∈ p.aliases) := aliased_iff_of_not_mentions
      (ha.not_mentions_goesBy (apart x hx).1) (hb.not_mentions_goesBy (apart x hx).2) hm
    constructor
    · rintro (agree | ⟨x, hx, led⟩)
      · have keys := plainKey_eq_of_containersAgree agree
        rw [ha.plainKey_effectiveName, hb.plainKey_effectiveName] at keys
        exact .inl keys
      · obtain ⟨shown', hn, same⟩ := (asked x hx).1 led
        rw [ha.lower_of_goesBy hm, hb.lower_of_goesBy hn] at same
        exact .inl same
    · rintro (same | ⟨default, -⟩)
      · obtain ⟨x, hx⟩ := List.exists_mem_of_ne_nil _ hne
        have named' : ¬IsDefaultName d n := mt (IsDefaultName.congr same).2 named
        rw [← hb.goesBy_eq_none_iff hd, ← ne_eq, Option.ne_none_iff_exists'] at named'
        obtain ⟨shown', hn⟩ := named'
        refine .inr ⟨x, hx, (asked x hx).2 ⟨shown', hn, ?_⟩⟩
        rw [ha.lower_of_goesBy hm, hb.lower_of_goesBy hn, same]
      · exact absurd default named

end Rule.Catalog

open Rulebook Rule.Catalog

variable {a b : Schema} {ca cb : Catalog}

/-- Where schemas are alike by name and catalogs count, their catalogs settle whether schemas are
the same, and whether tables of matching names in them are. -/
theorem judge_same_in_catalogs (hp : p.includeCatalog = true) (ha : a.catalog = some ca)
    (hb : b.catalog = some cb) (named : Rule.Schema.sameSchema d p a b = true) :
    let j := (builtin d).judge d p
    j.same (some (.schema a)) (some (.schema b)) =
        j.same (some (.catalog ca)) (some (.catalog cb)) ∧
      ∀ t u : Table, t.schema = some a → u.schema = some b →
        Rule.namesMatch d (.table t) (.table u) = true →
        j.same (some (.table t)) (some (.table u)) =
          j.same (some (.catalog ca)) (some (.catalog cb)) := by
  intro j
  have catalogs : j.same (some (.catalog ca)) (some (.catalog cb)) =
      .ok (Identity.catalogs d p (some ca) (some cb)) := same_catalog ca cb
  have schemas : j.same (some (.schema a)) (some (.schema b)) =
      .ok (Identity.schemas d p (some a) (some b)) := same_schema a b
  have follow := Identity.schemas_eq_catalogs hp ha hb named
  rw [catalogs, schemas, follow]
  refine ⟨rfl, fun t u ht hu names => ?_⟩
  have tables : j.same (some (.table t)) (some (.table u)) =
      .ok (Identity.tables d p (some t) (some u)) := same_table t u
  rw [tables, Identity.tables_eq_schemas ht hu names, follow]

/-- Where catalogs take part in telling objects apart, the schemas of an alias of qualified names
are the same exactly when their catalogs are, whichever is asked, and so are tables of matching
names in them. In a dialect without schemas the catalogs are the same unless one of the names is the
default one and the other is not; then they may be, one way only. In a dialect with schemas what the
aliases say of catalogs is not looked at, and the catalogs are the same only where their names are,
or are both the default one, unless an alias gives one of the names to a schema. -/
theorem judge_same_of_qualified (hd : d.hasCatalogs = true) (hp : p.includeCatalog = true)
    (hx : .qualified c₁ s₁ c₂ s₂ ∈ p.aliases) (ha : a.QualifiedBy ca c₁ s₁)
    (hb : b.QualifiedBy cb c₂ s₂) :
    let j := (builtin d).judge d p
    let catalogs := j.same (some (.catalog ca)) (some (.catalog cb))
    let catalogs' := j.same (some (.catalog cb)) (some (.catalog ca))
    (j.same (some (.schema a)) (some (.schema b)) = catalogs ∧
      j.same (some (.schema b)) (some (.schema a)) = catalogs') ∧
    (∀ t u : Table, t.schema = some a → u.schema = some b →
      Rule.namesMatch d (.table t) (.table u) = true →
      j.same (some (.table t)) (some (.table u)) = catalogs ∧
        j.same (some (.table u)) (some (.table t)) = catalogs') ∧
    (d.hasSchemas = false → StableName d c₁ → StableName d c₂ →
      (catalogs = .ok true ↔ (IsDefaultName d c₁ ↔ IsDefaultName d c₂) ∨ OneWay d p cb ca) ∧
      (catalogs' = .ok true ↔ (IsDefaultName d c₁ ↔ IsDefaultName d c₂) ∨ OneWay d p ca cb)) ∧
    (d.hasSchemas = true →
      let j' := (builtin d).judge d { p with aliases := p.aliases.map Alias.ofSchemas }
      (catalogs = j'.same (some (.catalog ca)) (some (.catalog cb)) ∧
        catalogs' = j'.same (some (.catalog cb)) (some (.catalog ca))) ∧
      (StableName d c₁ → StableName d c₂ →
        (∀ x ∈ p.aliases, ¬x.Mentions d (some c₁) ∧ ¬x.Mentions d (some c₂)) →
        (catalogs = .ok true ↔
          Text.lower c₁ = Text.lower c₂ ∨ IsDefaultName d c₁ ∧ IsDefaultName d c₂) ∧
        catalogs = catalogs')) := by
  intro j catalogs catalogs'
  have named := Rule.Schema.sameSchema_of_qualified hd hx ha hb
  have named' : Rule.Schema.sameSchema d p b a = true := by
    rw [Rule.Schema.sameSchema_comm, named]
  have within := judge_same_in_catalogs hp ha.link hb.link named
  have within' := judge_same_in_catalogs hp hb.link ha.link named'
  have judged : catalogs = .ok (sameCatalog d p ca cb) := judge_same_catalogs d p ca cb
  have judged' : catalogs' = .ok (sameCatalog d p cb ca) := judge_same_catalogs d p cb ca
  have known (h₁ : StableName d c₁) (h₂ : StableName d c₂) :
      Named d p ca c₁ ∧ Named d p cb c₂ := by
    constructor
    · exact ⟨h₁, by simp [effectiveName, hp, ha.catalog]⟩
    · exact ⟨h₂, by simp [effectiveName, hp, hb.catalog]⟩
  refine ⟨⟨within.1, within'.1⟩, fun t u ht hu names => ⟨within.2 t u ht hu names,
    within'.2 u t hu ht (by rw [Rule.namesMatch_comm, names])⟩, fun hs h₁ h₂ => ?_,
    fun hs => ⟨?_, fun h₁ h₂ apart => ?_⟩⟩
  · obtain ⟨na, nb⟩ := known h₁ h₂
    simpa [judged, judged'] using sameCatalog_iff_of_qualified hd hs hx na nb
  · rw [judged, judged', judge_same_catalogs, judge_same_catalogs, sameCatalog_ofSchemas hs,
      sameCatalog_ofSchemas hs]
    exact ⟨rfl, rfl⟩
  · obtain ⟨na, nb⟩ := known h₁ h₂
    have same := sameCatalog_iff_of_not_mentions hd (List.ne_nil_of_mem hx) na nb apart
    have same' := sameCatalog_iff_of_not_mentions hd (List.ne_nil_of_mem hx) nb na
      fun x hx => (apart x hx).symm
    refine ⟨by simpa [judged] using same, ?_⟩
    rw [judged, judged', Except.ok.injEq, Bool.eq_iff_iff, same, same', eq_comm,
      and_comm (a := IsDefaultName d c₁)]

/-- The policy by which the schema `dev` of `shop` is the schema `prod` of `crm`, and catalogs
count. -/
def shopDevToCrmProd : Policy :=
  { Policy.standard with
    includeCatalog := true
    aliases := [⟨.parse "shop.dev", .parse "crm.prod"⟩] }

theorem linkedSchema_qualifiedBy (position : Nat) (m n : String) :
    (linkedSchema position (some m) n).QualifiedBy ⟨.entry 0 .catalog position, some m, false, []⟩
      m n :=
  ⟨rfl, rfl, rfl⟩

theorem judge_same_of_qualified_shopDevToCrmProd :
    let j := (builtin .mysql).judge .mysql shopDevToCrmProd
    let dev := linkedSchema 0 (some "shop") "dev"
    let prod := linkedSchema 1 (some "crm") "prod"
    let orders := ordersIn 0 dev
    let orders' := ordersIn 1 prod
    (j.same (some (.schema dev)) (some (.schema prod)) = .ok true ∧
      j.same (some (.schema prod)) (some (.schema dev)) = .ok true) ∧
    j.same (some (.table orders)) (some (.table orders')) = .ok true ∧
      j.same (some (.table orders')) (some (.table orders)) = .ok true := by
  intro j dev prod orders orders'
  have listed : .qualified "shop" "dev" "crm" "prod" ∈ shopDevToCrmProd.aliases := by decide +kernel
  obtain ⟨⟨schemas, schemas'⟩, tables, oneLevel, -⟩ := judge_same_of_qualified (d := .mysql) rfl rfl
    listed (linkedSchema_qualifiedBy 0 "shop" "dev") (linkedSchema_qualifiedBy 1 "crm" "prod")
  have stable (n : String) (h : n ∈ ["shop", "crm"]) : StableName .mysql n := by
    have known : Text.Ascii n ∧ Text.trim n = n ∧ n ≠ "" := by
      revert n
      decide +kernel
    exact stableName_of_ascii known.1 known.2.1 known.2.2
  have unnamed (n : String) : ¬IsDefaultName .mysql n := by
    rintro ⟨_, ⟨⟩, -⟩
  obtain ⟨catalogs, catalogs'⟩ := oneLevel rfl (stable _ (by simp)) (stable _ (by simp))
  have same := catalogs.2 (.inl (iff_of_false (unnamed _) (unnamed _)))
  have same' := catalogs'.2 (.inl (iff_of_false (unnamed _) (unnamed _)))
  obtain ⟨ordersSame, ordersSame'⟩ := tables orders orders' rfl rfl (by decide +kernel)
  exact ⟨⟨schemas.trans same, schemas'.trans same'⟩, ordersSame.trans same, ordersSame'.trans same'⟩

/-- In a dialect with catalogs and schemas, neither the schemas of an alias of qualified names nor
tables of one name in them are the same where catalogs count. -/
theorem qualified_schemas_kept_apart :
    let j := (builtin .postgres).judge .postgres shopDevToCrmProd
    let dev := linkedSchema 0 (some "shop") "dev"
    let prod := linkedSchema 1 (some "crm") "prod"
    let orders := ordersIn 0 dev
    let orders' := ordersIn 1 prod
    Dialect.postgres.hasCatalogs = true ∧
    .qualified "shop" "dev" "crm" "prod" ∈ shopDevToCrmProd.aliases ∧
    (j.same (some (.schema dev)) (some (.schema prod)) = .ok false ∧
      j.same (some (.schema prod)) (some (.schema dev)) = .ok false) ∧
    j.same (some (.table orders)) (some (.table orders')) = .ok false ∧
      j.same (some (.table orders')) (some (.table orders)) = .ok false := by
  refine ⟨rfl, by decide +kernel, ⟨?_, ?_⟩, ?_, ?_⟩ <;>
  · rw [judge_same]
    decide +kernel

end SchemaDelta

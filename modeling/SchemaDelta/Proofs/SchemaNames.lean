import SchemaDelta.Proofs.OneWay

/-!
# What identifies a schema

With both levels of containers, and while catalogs take no part, a schema goes by its name, or by
the default one when it has none. Among names that are ASCII, not empty and without blanks around
them, the tests of the rule come down to one relation: the names are equal, or both the default
one, or the two names of one alias. An alias is a single step, so that two aliases with a name in
common do not lead from one end to the other.

## Main definitions

* `Rule.Schema.Identified` — when two names stand for one schema.
-/

namespace SchemaDelta

variable {d : Dialect} {p : Policy}

namespace Rule.Schema

/-- A name as databases give it. -/
structure PlainName (n : String) : Prop where
  ascii : Text.Ascii n
  trimmed : Text.trim n = n
  nonempty : n ≠ ""

instance (n : String) : Decidable (PlainName n) :=
  decidable_of_iff (Text.Ascii n ∧ Text.trim n = n ∧ n ≠ "")
    ⟨fun h => ⟨h.1, h.2.1, h.2.2⟩, fun h => ⟨h.ascii, h.trimmed, h.nonempty⟩⟩

/-- Equal names, up to case unless the dialect keeps them as written. -/
def SameName (d : Dialect) (m n : String) : Prop :=
  if d.nameCase = .asWritten then m = n else Text.lower m = Text.lower n

instance (m n : String) : Decidable (SameName d m n) :=
  inferInstanceAs
    (Decidable (if d.nameCase = .asWritten then m = n else Text.lower m = Text.lower n))

/-- The two names, either of which may be missing, stand for one schema. -/
inductive Identified (d : Dialect) (p : Policy) : Option String → Option String → Prop where
  | unnamed : Identified d p none none
  | equal {m n : String} : SameName d m n → Identified d p (some m) (some n)
  | default {m n default : String} : d.defaultSchema = some default →
      Text.lower m = Text.lower default → Text.lower n = Text.lower default →
      Identified d p (some m) (some n)
  | aliased {a : Alias} {r c m n : String} : a ∈ p.aliases → a.reference.schema = some r →
      a.comparison.schema = some c →
      (SameName d m r ∧ SameName d n c) ∨ (SameName d m c ∧ SameName d n r) →
      Identified d p (some m) (some n)

/-- Both names of the alias are there, and plain. -/
structure PlainAlias (a : Alias) : Prop where
  reference : ∃ r, a.reference.schema = some r ∧ PlainName r
  comparison : ∃ c, a.comparison.schema = some c ∧ PlainName c

/-! ## Plain names -/

namespace PlainName

variable {m n : String}

theorem containerKey_eq (h : PlainName n) :
    containerKey d (some n) = if d.nameCase = .asWritten then n else Text.lower n := by
  cases hcase : d.nameCase <;> simp [containerKey, hcase, h.trimmed]

theorem sameName_iff (hm : PlainName m) (hn : PlainName n) :
    SameName d m n ↔ containerKey d (some m) = containerKey d (some n) := by
  rw [hm.containerKey_eq, hn.containerKey_eq, SameName]
  split <;> rfl

theorem containerKey_ne_none (h : PlainName n) : containerKey d (some n) ≠ containerKey d none := by
  rw [containerKey_none, h.containerKey_eq]
  split
  · exact h.nonempty
  · exact mt Text.lower_eq_empty_iff.1 h.nonempty

/-- What agrees with a plain name is a name. -/
theorem exists_of_containerKey_eq {name : Option String} (h : PlainName n)
    (same : containerKey d name = containerKey d (some n)) : ∃ m, name = some m := by
  cases name with
  | none => exact absurd same.symm h.containerKey_ne_none
  | some m => exact ⟨m, rfl⟩

/-- A plain name is that of an alias when nothing else counts of it. -/
theorem isNamed_iff {name : Option String} (hn : PlainName n) (h : ∀ m ∈ name, PlainName m) :
    isNamed d (some n) name = true ↔ containerKey d name = containerKey d (some n) := by
  cases name with
  | none => simp [isNamed, hn.containerKey_ne_none.symm]
  | some m =>
    rw [← (h m rfl).sameName_iff hn, isNamed, SameName]
    cases d.nameCase <;> simpa [Text.sameIgnoringCase] using eq_comm

theorem containerKey_exchange {name : Option String} {r c : String} (hr : PlainName r)
    (hc : PlainName c) (h : ∀ m ∈ name, PlainName m) :
    containerKey d (exchange d name (some c) (some r)) =
      if containerKey d name = containerKey d (some c) then containerKey d (some r)
      else if containerKey d name = containerKey d (some r) then containerKey d (some c)
      else containerKey d name := by
  simp only [exchange, isNamed_iff hr h, isNamed_iff hc h]
  split
  · rfl
  · split <;> rfl

end PlainName

variable {x y : SchemaDelta.Schema} {this that : Option String}

/-- An alias makes two names agree that agree already, or that are its own. -/
theorem aliased_iff_of_plain {a : Alias} {r c : String} (hd : d.hasSchemas = true)
    (hr : a.reference.schema = some r) (hc : a.comparison.schema = some c)
    (plain : PlainName r) (plain' : PlainName c) (hthis : ∀ m ∈ this, PlainName m)
    (hthat : ∀ m ∈ that, PlainName m) :
    aliased d this that a = true ↔ containerKey d this = containerKey d that ∨
      (containerKey d this = containerKey d (some r) ∧
        containerKey d that = containerKey d (some c)) ∨
      (containerKey d this = containerKey d (some c) ∧
        containerKey d that = containerKey d (some r)) := by
  rw [aliased_iff, aliasName, aliasName, hd, if_pos rfl, if_pos rfl, hr, hc,
    plain.containerKey_exchange plain' hthis, plain'.containerKey_exchange plain hthat]
  grind

/-! ## The relation between names -/

/-- Up to case the name is the default one. -/
def IsDefaultName (d : Dialect) (name : Option String) : Prop :=
  ∃ n default, name = some n ∧ d.defaultSchema = some default ∧ Text.lower n = Text.lower default

theorem identified_iff (hd : d.hasSchemas = true) (aliases : ∀ a ∈ p.aliases, PlainAlias a)
    (hthis : ∀ m ∈ this, PlainName m) (hthat : ∀ m ∈ that, PlainName m) :
    Identified d p this that ↔ containerKey d this = containerKey d that ∨
      (IsDefaultName d this ∧ IsDefaultName d that) ∨
      ∃ a ∈ p.aliases, aliased d this that a = true := by
  constructor
  · intro h
    cases h with
    | unnamed => exact .inl rfl
    | equal same => exact .inl (((hthis _ rfl).sameName_iff (hthat _ rfl)).1 same)
    | default hdefault hm hn =>
      exact .inr (.inl ⟨⟨_, _, rfl, hdefault, hm⟩, _, _, rfl, hdefault, hn⟩)
    | @aliased a r c m n ha hr hc named =>
      obtain ⟨⟨r', hr', plain⟩, c', hc', plain'⟩ := aliases a ha
      obtain rfl := Option.some.inj (hr.symm.trans hr')
      obtain rfl := Option.some.inj (hc.symm.trans hc')
      rw [(hthis m rfl).sameName_iff plain, (hthat n rfl).sameName_iff plain',
        (hthis m rfl).sameName_iff plain', (hthat n rfl).sameName_iff plain] at named
      have led := (aliased_iff_of_plain hd hr hc plain plain' hthis hthat).2 (.inr named)
      exact .inr (.inr ⟨a, ha, led⟩)
  · have equal (same : containerKey d this = containerKey d that) : Identified d p this that := by
      cases this with
      | none =>
        cases that with
        | none => exact .unnamed
        | some n => exact absurd same.symm (hthat n rfl).containerKey_ne_none
      | some m =>
        obtain ⟨n, rfl⟩ := (hthis m rfl).exists_of_containerKey_eq same.symm
        exact .equal (((hthis m rfl).sameName_iff (hthat n rfl)).2 same)
    rintro (same | ⟨⟨m, default, rfl, hdefault, hm⟩, n, default', rfl, hdefault', hn⟩ |
      ⟨a, ha, led⟩)
    · exact equal same
    · obtain rfl := Option.some.inj (hdefault.symm.trans hdefault')
      exact .default hdefault hm hn
    · obtain ⟨⟨r, hr, plain⟩, c, hc, plain'⟩ := aliases a ha
      rcases (aliased_iff_of_plain hd hr hc plain plain' hthis hthat).1 led with same | named
      · exact equal same
      · obtain ⟨m, rfl⟩ : ∃ m, this = some m :=
          named.elim (plain.exists_of_containerKey_eq ·.1) (plain'.exists_of_containerKey_eq ·.1)
        obtain ⟨n, rfl⟩ : ∃ n, that = some n :=
          named.elim (plain'.exists_of_containerKey_eq ·.2) (plain.exists_of_containerKey_eq ·.2)
        rw [← (hthis m rfl).sameName_iff plain, ← (hthat n rfl).sameName_iff plain',
          ← (hthis m rfl).sameName_iff plain', ← (hthat n rfl).sameName_iff plain] at named
        exact .aliased ha hr hc named

/-! ## Standard forms -/

theorem plainName_or (default : ∀ n ∈ d.defaultSchema, PlainName n)
    (hx : ∀ n ∈ x.name, PlainName n) : ∀ n ∈ x.name.or d.defaultSchema, PlainName n := by
  intro n hn
  cases hname : x.name with
  | none => exact default n (by rwa [hname, Option.none_or] at hn)
  | some m => exact hx n (by rwa [hname, Option.some_or, ← hname] at hn)

section

variable (hcatalogs : d.hasCatalogs = true) (hschemas : d.hasSchemas = true)
  (hx : ∀ n ∈ x.name, PlainName n)
include hcatalogs hschemas hx

theorem standardKey_of_isDefaultName (h : IsDefaultName d (x.name.or d.defaultSchema)) :
    standardKey d x = "" := by
  cases hname : x.name with
  | none => exact standardKey_of_unnamed hcatalogs hschemas hname
  | some m =>
    obtain ⟨n, default, hn, hdefault, same⟩ := h
    rw [hname, Option.some_or] at hn
    obtain rfl := Option.some.inj hn
    exact standardKey_of_isDefault hcatalogs hschemas hname
      ⟨default, hdefault, by rw [(hx m hname).trimmed, same]⟩

theorem standardKey_of_not_isDefaultName (h : ¬IsDefaultName d (x.name.or d.defaultSchema)) :
    standardKey d x = containerKey d (x.name.or d.defaultSchema) := by
  cases hname : x.name with
  | none =>
    rw [standardKey_of_unnamed hcatalogs hschemas hname, Option.none_or]
    cases hdefault : d.defaultSchema with
    | none => exact containerKey_none.symm
    | some n => exact absurd ⟨n, n, by rw [hname, hdefault]; rfl, hdefault, rfl⟩ h
  | some m =>
    refine standardKey_of_not_isDefault hcatalogs hschemas hname (hx m hname).ascii ?_
    rintro ⟨default, hdefault, same⟩
    rw [(hx m hname).trimmed] at same
    exact h ⟨m, default, by rw [hname]; rfl, hdefault, same⟩

variable (hy : ∀ n ∈ y.name, PlainName n) (default : ∀ n ∈ d.defaultSchema, PlainName n)
include hy default

/-- The standard forms agree when the names do, or when both are the default one. -/
theorem standardKey_eq_iff : standardKey d x = standardKey d y ↔
    containerKey d (x.name.or d.defaultSchema) = containerKey d (y.name.or d.defaultSchema) ∨
      (IsDefaultName d (x.name.or d.defaultSchema) ∧
        IsDefaultName d (y.name.or d.defaultSchema)) := by
  -- where there is a default name, what goes by no other name has something that counts
  have counts {a b : SchemaDelta.Schema} (hb : ∀ n ∈ b.name, PlainName n)
      (h : IsDefaultName d (a.name.or d.defaultSchema)) :
      containerKey d (b.name.or d.defaultSchema) ≠ "" := by
    obtain ⟨-, n, -, hn, -⟩ := h
    obtain ⟨m, hm⟩ : ∃ m, b.name.or d.defaultSchema = some m := by
      rw [hn]
      cases b.name <;> exact ⟨_, rfl⟩
    rw [hm, ← containerKey_none (d := d)]
    exact (plainName_or default hb m hm).containerKey_ne_none
  constructor
  · intro same
    by_cases hx' : IsDefaultName d (x.name.or d.defaultSchema) <;>
      by_cases hy' : IsDefaultName d (y.name.or d.defaultSchema)
    · exact .inr ⟨hx', hy'⟩
    · rw [standardKey_of_isDefaultName hcatalogs hschemas hx hx',
        standardKey_of_not_isDefaultName hcatalogs hschemas hy hy'] at same
      exact absurd same.symm (counts hy hx')
    · rw [standardKey_of_isDefaultName hcatalogs hschemas hy hy',
        standardKey_of_not_isDefaultName hcatalogs hschemas hx hx'] at same
      exact absurd same (counts hx hy')
    · rw [standardKey_of_not_isDefaultName hcatalogs hschemas hx hx',
        standardKey_of_not_isDefaultName hcatalogs hschemas hy hy'] at same
      exact .inl same
  · rintro (same | ⟨hx', hy'⟩)
    · exact standardKey_eq_of_orDefault hcatalogs hschemas (fun n hn => (hx n hn).ascii)
        (fun n hn => (hy n hn).ascii) (fun n hn => (default n hn).trimmed) same
    · rw [standardKey_of_isDefaultName hcatalogs hschemas hx hx',
        standardKey_of_isDefaultName hcatalogs hschemas hy hy']

/-- Among plain names the tests of the rule are one relation. -/
theorem sameSchema_iff_identified (aliases : ∀ a ∈ p.aliases, PlainAlias a) :
    sameSchema d p x y = true ↔
      Identified d p (x.name.or d.defaultSchema) (y.name.or d.defaultSchema) := by
  have named (s : SchemaDelta.Schema) : namespaceName d s = s.name := by
    simp [namespaceName, hschemas]
  have orDefault (name : Option String) : nameOrDefault d name = name.or d.defaultSchema := by
    simp [nameOrDefault, hschemas]
  have names (h : containerKey d x.name = containerKey d y.name) :
      standardKey d x = standardKey d y :=
    standardKey_eq_of_containerKey_eq hcatalogs hschemas (fun n hn => (hx n hn).ascii)
      (fun n hn => (hy n hn).ascii) h
  rw [identified_iff hschemas aliases (plainName_or default hx) (plainName_or default hy),
    ← or_assoc, ← standardKey_eq_iff hcatalogs hschemas hx hy default]
  simp only [sameSchema, named, orDefault, Bool.or_eq_true, List.any_eq_true, containersAgree_iff]
  constructor
  · rintro ((same | same | led) | standard)
    · exact .inl (names same)
    · exact .inl ((standardKey_eq_iff hcatalogs hschemas hx hy default).2 (.inl same))
    · exact .inr led
    · exact .inl standard
  · rintro (standard | led)
    · exact .inr standard
    · exact .inl (.inr (.inr led))

end

end Rule.Schema

open Rulebook Rule.Schema

/-- With both levels of containers, and while catalogs take no part, two schemas with plain names
are the same exactly when their names stand for one schema, the default name in the place of a
missing one: as equal names, as names of the default schema, or as the two names of one alias. -/
theorem schemas_same_iff_identified (hcatalogs : d.hasCatalogs = true)
    (hschemas : d.hasSchemas = true) (hp : p.includeCatalog = false)
    (default : ∀ n ∈ d.defaultSchema, PlainName n) (aliases : ∀ a ∈ p.aliases, PlainAlias a)
    {x y : Schema} (hx : ∀ n ∈ x.name, PlainName n) (hy : ∀ n ∈ y.name, PlainName n)
    (distinct : x ≠ y) :
    ∃ same, ((builtin d).judge d p).same (some (.schema x)) (some (.schema y)) = .ok same ∧
      (same = true ↔ Identified d p (x.name.or d.defaultSchema) (y.name.or d.defaultSchema)) := by
  refine ⟨_, same_schema x y, ?_⟩
  rw [← sameSchema_iff_identified hcatalogs hschemas hx hy default aliases]
  simp [distinct, Identity.schemasAlike, hp]

/-- A policy by which `dev` became `test`, and `test` became `prod`. -/
def chained : Policy :=
  { Policy.standard with
    aliases := [⟨.parse "dev", .parse "test"⟩, ⟨.parse "test", .parse "shop.prod"⟩] }

theorem schemas_same_iff_identified_chained :
    let j := (builtin .mssql).judge .mssql chained
    j.same (some (bareSchema 0 0 "dev")) (some (bareSchema 1 0 "test")) = .ok true ∧
      j.same (some (bareSchema 0 0 "prod")) (some (bareSchema 1 0 "test")) = .ok true ∧
      j.same (some (bareSchema 0 0 "dev")) (some (bareSchema 1 0 "prod")) = .ok false := by
  intro j
  have devTest : chained.aliases = [⟨⟨none, some "dev"⟩, ⟨none, some "test"⟩⟩,
      ⟨⟨none, some "test"⟩, ⟨some "shop", some "prod"⟩⟩] := by decide
  have aliases : ∀ a ∈ chained.aliases, PlainAlias a := by
    rw [devTest]
    simp only [List.forall_mem_cons, List.not_mem_nil, false_implies, implies_true, and_true]
    exact ⟨⟨⟨_, rfl, by decide +kernel⟩, _, rfl, by decide +kernel⟩,
      ⟨_, rfl, by decide +kernel⟩, _, rfl, by decide +kernel⟩
  have answer (m n : String) (hm : PlainName m) (hn : PlainName n) :
      ∃ same, j.same (some (bareSchema 0 0 m)) (some (bareSchema 1 0 n)) = .ok same ∧
        (same = true ↔ Identified .mssql chained (some m) (some n)) :=
    schemas_same_iff_identified rfl rfl rfl (by decide +kernel) aliases
      (by rintro _ ⟨⟩; exact hm) (by rintro _ ⟨⟩; exact hn) (by simp)
  refine ⟨?_, ?_, ?_⟩
  · obtain ⟨same, run, iff⟩ := answer "dev" "test" (by decide +kernel) (by decide +kernel)
    rw [run, iff.2 (.aliased (devTest ▸ List.mem_cons_self) rfl rfl (by decide))]
  · obtain ⟨same, run, iff⟩ := answer "prod" "test" (by decide +kernel) (by decide +kernel)
    rw [run, iff.2 (.aliased (devTest ▸ List.mem_cons_of_mem _ List.mem_cons_self) rfl rfl
      (by decide))]
  · obtain ⟨same, run, iff⟩ := answer "dev" "prod" (by decide +kernel) (by decide +kernel)
    have apart : ¬Identified .mssql chained (some "dev") (some "prod") := by
      intro h
      cases h with
      | equal same => exact absurd same (by decide)
      | default hdefault hm _ =>
        obtain rfl := Option.some.inj hdefault
        exact absurd hm (by decide +kernel)
      | aliased ha hr hc named =>
        rw [devTest] at ha
        rcases List.mem_cons.1 ha with rfl | ha
        · obtain rfl := Option.some.inj hr
          obtain rfl := Option.some.inj hc
          exact absurd named (by decide)
        · obtain rfl := List.mem_singleton.1 ha
          obtain rfl := Option.some.inj hr
          obtain rfl := Option.some.inj hc
          exact absurd named (by decide)
    rw [run, Bool.eq_false_iff.2 (mt iff.1 apart)]

end SchemaDelta

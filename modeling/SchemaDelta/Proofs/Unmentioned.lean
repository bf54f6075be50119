import SchemaDelta.Proofs.OneWay

/-!
# Aliases that mention neither name

Whether two schemas are the same does not depend on an alias that mentions the name of neither. For
catalogs there is one exception. Names that no alias exchanges are compared once more for each
alias, schemas as they were before, catalogs without regard to case. Where a dialect keeps names
as they are written, two catalogs whose names differ in case only are therefore the same as soon as
there is any alias, and not the same while there is none.

## Main definitions

* `Alias.Mentions` — one of the names of an alias is the name given.
* `Rule.Catalog.CaseTwins` — two catalogs apart by the case of their names only.
-/

namespace SchemaDelta

/-- The names of an alias at the level by which the dialect knows containers. -/
def Alias.names (d : Dialect) (x : Alias) : List String :=
  (Rule.aliasName d x.comparison).toList ++ (Rule.aliasName d x.reference).toList

/-- The name is one of those of the alias up to case and blanks around it. -/
def Alias.Mentions (d : Dialect) (x : Alias) (name : Option String) : Prop :=
  ∃ s ∈ x.names d, ∃ n ∈ name, Text.lower (Text.trim s) = Text.lower (Text.trim n)

instance (d : Dialect) (x : Alias) (name : Option String) : Decidable (x.Mentions d name) := by
  unfold Alias.Mentions
  infer_instance

variable {d : Dialect} {p : Policy} {x : Alias} {before after : List Alias}

theorem Alias.mem_names_of_comparison {s : String} (h : Rule.aliasName d x.comparison = some s) :
    s ∈ x.names d := by
  simp [names, h]

theorem Alias.mem_names_of_reference {s : String} (h : Rule.aliasName d x.reference = some s) :
    s ∈ x.names d := by
  simp [names, h]

/-! ## Schemas -/

namespace Rule.Schema

variable {this that name : Option String}

theorem not_isNamed_of_not_mentions (h : ¬x.Mentions d name) {side : Option String}
    (hside : ∀ s ∈ side, s ∈ x.names d) : isNamed d side name = false := by
  rw [Bool.eq_false_iff]
  intro named
  have agree := Catalog.plainKey_eq_of_containersAgree
    (containersAgree_iff.2 (containerKey_eq_of_isNamed named))
  cases side with
  | none => cases named
  | some s =>
    cases name with
    | none => cases named
    | some n => exact h ⟨s, hside s rfl, n, rfl, agree⟩

/-- An alias that does not mention a name leaves it alone. -/
theorem exchange_of_not_mentions (h : ¬x.Mentions d name) {first second : Option String}
    (hfirst : ∀ s ∈ first, s ∈ x.names d) (hsecond : ∀ s ∈ second, s ∈ x.names d) :
    exchange d name first second = name := by
  rw [exchange, not_isNamed_of_not_mentions h hfirst, not_isNamed_of_not_mentions h hsecond]
  rfl

/-- An alias that mentions neither name asks what was asked without it. -/
theorem aliased_of_not_mentions (hthis : ¬x.Mentions d this) (hthat : ¬x.Mentions d that) :
    aliased d this that x = containersAgree d this that := by
  have comparison : ∀ s ∈ aliasName d x.comparison, s ∈ x.names d :=
    fun _ => Alias.mem_names_of_comparison
  have reference : ∀ s ∈ aliasName d x.reference, s ∈ x.names d :=
    fun _ => Alias.mem_names_of_reference
  rw [aliased, exchange_of_not_mentions hthis comparison reference,
    exchange_of_not_mentions hthat reference comparison, Bool.or_self]

/-- The name that a schema goes by, that of its catalog in a dialect without schemas, or else the
default one. -/
def goesBy (d : Dialect) (s : SchemaDelta.Schema) : Option String :=
  nameOrDefault d (namespaceName d s)

theorem sameSchema_of_not_mentions (split : p.aliases = before ++ after)
    {a b : SchemaDelta.Schema} (ha : ¬x.Mentions d (goesBy d a)) (hb : ¬x.Mentions d (goesBy d b)) :
    sameSchema d { p with aliases := before ++ x :: after } a b = sameSchema d p a b := by
  have asked := aliased_of_not_mentions ha hb
  rw [goesBy, goesBy] at asked
  simp only [sameSchema, split, List.any_append, List.any_cons, asked]
  cases containersAgree d (nameOrDefault d (namespaceName d a))
    (nameOrDefault d (namespaceName d b)) <;> simp

end Rule.Schema

/-! ## Catalogs -/

namespace Rule.Catalog

variable {m n : String} {a b : SchemaDelta.Catalog}

/-- The name in standard form that a catalog goes by, if it has one that the dialect knows. -/
def goesBy (d : Dialect) (p : Policy) (c : SchemaDelta.Catalog) : Option String :=
  standardName d (effectiveName p c)

/-- A catalog that goes by a name is the same as another when their names agree or an alias leads
from the one to the other. -/
theorem sameCatalog_of_goesBy (hm : goesBy d p a = some m) :
    sameCatalog d p a b = (containersAgree d (effectiveName p a) (effectiveName p b) ||
      p.aliases.any (aliased d (some m) (goesBy d p b))) := by
  simp only [goesBy] at hm ⊢
  simp [sameCatalog, hasCatalogs_of_standardName hm, hm]

theorem sameCatalog_of_goesBy_eq_none (hd : d.hasCatalogs = true) (hm : goesBy d p a = none) :
    sameCatalog d p a b = (goesBy d p b).isNone := by
  simp only [goesBy] at hm ⊢
  simp [sameCatalog, hd, hm]

/-- The names of two catalogs are not the same to the dialect, and yet equal up to case in standard
form. -/
structure CaseTwins (d : Dialect) (p : Policy) (a b : SchemaDelta.Catalog) : Prop where
  apart : containersAgree d (effectiveName p a) (effectiveName p b) = false
  twins : ∃ m n, goesBy d p a = some m ∧ goesBy d p b = some n ∧ Text.lower m = Text.lower n

theorem presentAndSame_congr (h : Text.lower m = Text.lower n) (side : Option String) :
    presentAndSame side (some m) = presentAndSame side (some n) := by
  cases side <;> simp [presentAndSame, Text.sameIgnoringCase, h]

/-- Whatever an alias exchanges, it exchanges it for both of two names that differ in case only. -/
theorem aliased_of_lower_eq (h : Text.lower m = Text.lower n)
    (hm : plainKey (some m) = Text.lower m) (hn : plainKey (some n) = Text.lower n) (y : Alias) :
    aliased d (some m) (some n) y = true := by
  refine aliased_iff.2 (.inr ?_)
  simp only [exchangeBy, exchange, presentAndSame_congr h]
  split
  · rfl
  · split
    · rfl
    · rw [hm, hn, h]

theorem name_of_effectiveName (h : effectiveName p a = some n) : a.name = some n := by
  unfold effectiveName at h
  split at h
  · cases h
  · exact h

/-- A name that the dialect's spelling changes in case only is mentioned in standard form only where
it is as it is written. -/
theorem not_mentions_goesBy (h : ¬x.Mentions d a.name)
    (stable : ∀ n ∈ a.name,
      Text.lower (d.nameCase.apply (Text.trim n)) = Text.lower (Text.trim n)) :
    ¬x.Mentions d (goesBy d p a) := by
  rintro ⟨s, hs, m, hm, same⟩
  obtain ⟨name, hname, -, rfl⟩ := exists_of_standardName hm
  have given := name_of_effectiveName hname
  rw [NameCase.trim_apply, Text.trim_trim, stable name given] at same
  exact h ⟨s, hs, name, given, same⟩

/-- An alias leaves a name alone that it does not mention. -/
theorem exchangeBy_of_not_mentions (h : ¬x.Mentions d (some m)) :
    exchangeBy d x (some m) = some m := by
  have apart (side : Option String) (hside : ∀ s ∈ side, s ∈ x.names d) :
      ¬presentAndSame side (some m) := by
    intro same
    obtain ⟨s, rfl, equal⟩ := presentAndSame_iff.1 same
    have trimmed := congrArg Text.trim equal
    rw [Text.trim_lower, Text.trim_lower] at trimmed
    exact h ⟨s, hside s rfl, m, rfl, trimmed⟩
  rw [exchangeBy, exchange, if_neg (apart _ fun _ => Alias.mem_names_of_comparison),
    if_neg (apart _ fun _ => Alias.mem_names_of_reference)]

/-- An alias that mentions neither catalog identifies those whose names differ in case only, and no
others. -/
theorem aliased_iff_of_not_mentions (ha : ¬x.Mentions d (goesBy d p a))
    (hb : ¬x.Mentions d (goesBy d p b)) (hm : goesBy d p a = some m) :
    aliased d (some m) (goesBy d p b) x = true ↔
      ∃ n, goesBy d p b = some n ∧ Text.lower m = Text.lower n := by
  obtain ⟨key, ne⟩ := plainKey_of_standardName hm
  rw [hm] at ha
  rw [aliased_iff, exchangeBy_of_not_mentions ha]
  cases hn : goesBy d p b with
  | none =>
    have stays : exchangeBy d x none = none := exchange_none _ _
    simp [stays, key, ne, plainKey_none]
  | some n =>
    rw [hn] at hb
    rw [exchangeBy_of_not_mentions hb, or_self, key, (plainKey_of_standardName hn).1]
    simp

/-- Put anywhere among the aliases, one that mentions neither catalog makes those the same whose
names differ in case only. -/
theorem sameCatalog_insert_iff (split : p.aliases = before ++ after)
    (ha : ¬x.Mentions d (goesBy d p a)) (hb : ¬x.Mentions d (goesBy d p b)) :
    sameCatalog d { p with aliases := before ++ x :: after } a b = true ↔
      sameCatalog d p a b = true ∨ CaseTwins d p a b := by
  let q : Policy := { p with aliases := before ++ x :: after }
  change sameCatalog d q a b = true ↔ _
  cases hm : goesBy d p a with
  | none =>
    have single : ¬CaseTwins d p a b := by
      rintro ⟨-, m, n, hm', -⟩
      cases hm.symm.trans hm'
    have alike : sameCatalog d q a b = sameCatalog d p a b := by
      cases hd : d.hasCatalogs with
      | false => simp [sameCatalog, hd]
      | true =>
        have hq : goesBy d q a = none := hm
        rw [sameCatalog_of_goesBy_eq_none hd hm, sameCatalog_of_goesBy_eq_none hd hq]
        rfl
    rw [alike, or_iff_left single]
  | some m =>
    have led := aliased_iff_of_not_mentions ha hb hm
    have twins : CaseTwins d p a b ↔
        containersAgree d (effectiveName p a) (effectiveName p b) = false ∧
          aliased d (some m) (goesBy d p b) x = true := by
      rw [led]
      constructor
      · rintro ⟨apart, m', n, hm', hn, same⟩
        obtain rfl := Option.some.inj (hm.symm.trans hm')
        exact ⟨apart, n, hn, same⟩
      · rintro ⟨apart, n, hn, same⟩
        exact ⟨apart, m, n, hm, hn, same⟩
    have hq : goesBy d q a = some m := hm
    have others : goesBy d q b = goesBy d p b := rfl
    have names (c : SchemaDelta.Catalog) : effectiveName q c = effectiveName p c := rfl
    rw [sameCatalog_of_goesBy hm, sameCatalog_of_goesBy hq, twins, others, names, names, split]
    cases containersAgree d (effectiveName p a) (effectiveName p b) <;>
      simp [q, List.any_append, or_left_comm, or_comm]

namespace CaseTwins

/-- Catalogs whose names differ in case only are the same as soon as there is an alias. -/
theorem sameCatalog_iff (h : CaseTwins d p a b) : sameCatalog d p a b = true ↔ p.aliases ≠ [] := by
  obtain ⟨apart, m, n, hm, hn, same⟩ := h
  have led (y : Alias) : aliased d (some m) (some n) y = true :=
    aliased_of_lower_eq same (plainKey_of_standardName hm).1 (plainKey_of_standardName hn).1 y
  rw [sameCatalog_of_goesBy hm, apart, hn]
  cases p.aliases with
  | nil => simp
  | cons y ys => simp [led y]

/-- Among ASCII names there are such only where the dialect keeps the case of names. -/
theorem asWritten (h : CaseTwins d p a b) (ha : ∀ n ∈ a.name, Text.Ascii n)
    (hb : ∀ n ∈ b.name, Text.Ascii n) : d.nameCase = .asWritten := by
  obtain ⟨apart, m, n, hm, hn, same⟩ := h
  obtain ⟨s, hs, -, rfl⟩ := exists_of_standardName hm
  obtain ⟨t, ht, -, rfl⟩ := exists_of_standardName hn
  by_contra folded
  rw [NameCase.lower_apply _ (Text.ascii_trim (ha s (name_of_effectiveName hs))),
    NameCase.lower_apply _ (Text.ascii_trim (hb t (name_of_effectiveName ht)))] at same
  simp [containersAgree, hs, ht, folded, Text.sameIgnoringCase, same] at apart

end CaseTwins

/-- An alias put among others that mentions neither of two catalogs changes nothing unless it is the
only one and their names differ in case only. -/
theorem sameCatalog_insert_ne_iff (split : p.aliases = before ++ after)
    (ha : ¬x.Mentions d (goesBy d p a)) (hb : ¬x.Mentions d (goesBy d p b)) :
    sameCatalog d { p with aliases := before ++ x :: after } a b ≠ sameCatalog d p a b ↔
      p.aliases = [] ∧ CaseTwins d p a b := by
  have inserted := sameCatalog_insert_iff split ha hb
  constructor
  · intro changed
    have apart : ¬sameCatalog d p a b = true :=
      fun same => changed ((inserted.2 (.inl same)).trans same.symm)
    have twins : CaseTwins d p a b := by
      by_contra single
      exact changed (Bool.eq_iff_iff.2 (inserted.trans (or_iff_left single)))
    exact ⟨not_not.1 (mt twins.sameCatalog_iff.2 apart), twins⟩
  · rintro ⟨alone, twins⟩ unchanged
    have same := inserted.2 (.inr twins)
    rw [unchanged] at same
    exact twins.sameCatalog_iff.1 same alone

end Rule.Catalog

open Rulebook Rule.Catalog Rule.Schema

/-- While catalogs take no part in telling objects apart, two schemas are the same with an alias
that mentions the name of neither, wherever it is put among the others, exactly if they are without
it. So are two catalogs, unless it is the only alias and their names differ in case only: these are
told apart without it, and not with it. Of ASCII names it is enough that they are not mentioned as
they are written, and only where names keep their case can the answers differ. -/
theorem judge_same_of_unmentioned {d : Dialect} {p : Policy} {x : Alias}
    {before after : List Alias} (hp : p.includeCatalog = false)
    (split : p.aliases = before ++ after) :
    let j := (builtin d).judge d p
    let j' := (builtin d).judge d { p with aliases := before ++ x :: after }
    (∀ a b : Schema, ¬x.Mentions d (Rule.Schema.goesBy d a) →
      ¬x.Mentions d (Rule.Schema.goesBy d b) →
      j'.same (some (.schema a)) (some (.schema b)) =
        j.same (some (.schema a)) (some (.schema b))) ∧
    (∀ a b : Catalog, ¬x.Mentions d (Rule.Catalog.goesBy d p a) →
      ¬x.Mentions d (Rule.Catalog.goesBy d p b) →
      (j'.same (some (.catalog a)) (some (.catalog b)) ≠
          j.same (some (.catalog a)) (some (.catalog b)) ↔
        p.aliases = [] ∧ CaseTwins d p a b) ∧
      (p.aliases = [] ∧ CaseTwins d p a b →
        j.same (some (.catalog a)) (some (.catalog b)) = .ok false ∧
          j'.same (some (.catalog a)) (some (.catalog b)) = .ok true)) ∧
    ∀ a b : Catalog, (∀ n ∈ a.name, Text.Ascii n) → (∀ n ∈ b.name, Text.Ascii n) →
      (¬x.Mentions d a.name → ¬x.Mentions d (Rule.Catalog.goesBy d p a)) ∧
      (CaseTwins d p a b → d.nameCase = .asWritten) := by
  intro j j'
  have schemas (q : Policy) (a b : Schema) :
      ((builtin d).judge d q).same (some (.schema a)) (some (.schema b)) =
        .ok (decide (a = b) || Identity.schemasAlike d q a b) := same_schema a b
  refine ⟨?_, ?_, fun a b ha hb => ⟨fun h => not_mentions_goesBy h fun n hn =>
    NameCase.lower_apply _ (Text.ascii_trim (ha n hn)), fun twins => twins.asWritten ha hb⟩⟩
  · intro a b ha hb
    rw [schemas, schemas, Identity.schemasAlike, Identity.schemasAlike,
      sameSchema_of_not_mentions split ha hb, hp]
    rfl
  · intro a b ha hb
    rw [judge_same_catalogs, judge_same_catalogs]
    constructor
    · rw [← sameCatalog_insert_ne_iff split ha hb, Ne, Ne, Except.ok.injEq]
    · rintro ⟨alone, twins⟩
      have apart : sameCatalog d p a b = false := by
        rw [Bool.eq_false_iff, Ne, twins.sameCatalog_iff]
        exact not_not.2 alone
      rw [apart, (sameCatalog_insert_iff split ha hb).2 (.inr twins)]
      exact ⟨rfl, rfl⟩

/-- The alias by which `dev` became `prod`. -/
def devToProd : Alias := ⟨.parse "dev", .parse "prod"⟩

/-- The policy by which `sales` became `crm`. -/
def salesToCrm : Policy :=
  { Policy.standard with aliases := [⟨.parse "sales", .parse "crm"⟩] }

theorem judge_same_of_unmentioned_devToProd :
    let j (d : Dialect) (p : Policy) := (builtin d).judge d p
    let both : Policy :=
      { salesToCrm with aliases := [] ++ devToProd :: [⟨.parse "sales", .parse "crm"⟩] }
    let alone : Policy := { Policy.standard with aliases := [] ++ devToProd :: [] }
    (j .postgres both).same (some (bareSchema 0 0 "Sales")) (some (bareSchema 1 0 "crm")) =
        (j .postgres salesToCrm).same (some (bareSchema 0 0 "Sales"))
          (some (bareSchema 1 0 "crm")) ∧
      (j .mysql .standard).same (some (bareCatalog 0 "Shop" false))
        (some (bareCatalog 1 "shop" false)) = .ok false ∧
      (j .mysql alone).same (some (bareCatalog 0 "Shop" false))
        (some (bareCatalog 1 "shop" false)) = .ok true := by
  intro j both alone
  refine ⟨?_, ?_⟩
  · have split : salesToCrm.aliases = [] ++ [⟨.parse "sales", .parse "crm"⟩] := rfl
    exact (judge_same_of_unmentioned rfl split).1 _ _ (by decide +kernel) (by decide +kernel)
  · have split : Policy.standard.aliases = [] ++ [] := rfl
    have twins : CaseTwins .mysql .standard ⟨.entry 0 .catalog 0, some "Shop", false, []⟩
        ⟨.entry 1 .catalog 0, some "shop", false, []⟩ :=
      ⟨by decide +kernel, "Shop", "shop", by decide +kernel, by decide +kernel, by decide +kernel⟩
    exact ((judge_same_of_unmentioned (x := devToProd) rfl split).2.1 _ _ (by decide +kernel)
      (by decide +kernel)).2 ⟨rfl, twins⟩

/-- With an alias that mentions neither of them nor a default name, two catalogs are the same that
are told apart without it. -/
theorem catalogs_merged_by_unmentioned :
    let j (p : Policy) := (builtin .mysql).judge .mysql p
    let aliased : Policy := { Policy.standard with aliases := [devToProd] }
    (∀ name ∈ [some "Shop", some "shop", Dialect.mysql.defaultCatalog, Dialect.mysql.defaultSchema],
      ¬devToProd.Mentions .mysql name) ∧
    (j .standard).same (some (bareCatalog 0 "Shop" false)) (some (bareCatalog 1 "shop" false)) =
      .ok false ∧
    (j aliased).same (some (bareCatalog 0 "Shop" false)) (some (bareCatalog 1 "shop" false)) =
      .ok true := by
  refine ⟨by decide +kernel, ?_, ?_⟩
  · rw [judge_same]
    decide +kernel
  · rw [judge_same]
    decide +kernel

end SchemaDelta

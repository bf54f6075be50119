import SchemaDelta.Proofs.Symmetry
import SchemaDelta.Proofs.TwoLoads

/-!
# Renamed schemas

An alias makes two names of a schema stand for each other, one on either side. When a
schema of a document is renamed from one to the other, wherever it is declared or stated,
comparing the document with the renamed one finds no difference: the renamed schema is the
same by the alias, everything in it is the same because its schema is, and that the schema
has another name is not reported. Other aliases and other objects do no harm, for every
object finds its copy still free.
-/

namespace SchemaDelta

variable {d : Dialect} {p : Policy} {r c : String} {a : Alias}

/-! ## The renamed schema -/

/-- Under an alias a schema is still alike when it is renamed from one name of the alias to the
other. -/
theorem Identity.keepsSchemas_update (hd : d.hasSchemas = true) (hp : p.includeCatalog = false)
    (ha : a ∈ p.aliases) (hr : a.reference.schema = some r) (hc : a.comparison.schema = some c)
    (origin : Nat) : KeepsSchemas d p origin (Function.update id r c) := by
  intro s
  have goesBy (s : Schema) : Rule.Schema.namespaceName d s = s.name := by
    rw [Rule.Schema.namespaceName, hd, if_pos rfl]
  have same : Rule.Schema.sameSchema d p s (s.recast origin (Function.update id r c)) := by
    unfold Rule.Schema.sameSchema
    rw [goesBy, goesBy, Schema.recast]
    cases s.name with
    | none => simp [containersAgree_self]
    | some n =>
      by_cases hn : n = r
      · subst hn
        have aliased : p.aliases.any (Rule.Schema.aliased d (some n) (some c)) :=
          List.any_eq_true.2 ⟨a, ha, Rule.Schema.aliased_self (by simp [Rule.aliasName, hd, hr])
            (by simp [Rule.aliasName, hd, hc])⟩
        simp [Rule.Schema.nameOrDefault, aliased]
      · simp [Function.update_of_ne hn, containersAgree_self]
  simp [schemasAlike, hp, same]

namespace Differences

/-- Two schemas can differ in nothing but their names. -/
theorem schemas_differ_in_name (x y : Schema) :
    ∃ l, ((Rulebook.builtin d).judge d p).differences (some (.schema x)) (some (.schema y)) [] =
      .ok l ∧ ∀ e ∈ l.entries, e.1 = .name := by
  have decided : ∃ agree, Ledger.agree? (.schema x) (.schema y) .name
      (Criterion.byName .schema d) = .ok agree := by
    obtain ⟨_, name, _, _, _⟩ := x
    obtain ⟨_, name', _, _, _⟩ := y
    cases name <;> cases name' <;> exact ⟨_, rfl⟩
  obtain ⟨agree, decided⟩ := decided
  obtain ⟨l, hl⟩ := Ledger.exists_compare (l := Ledger.new p .schema) decided
  have run : (Ledger.new p .schema).compareAll (.schema x) (.schema y)
      [(.name, Criterion.byName .schema d)] = .ok l := by
    rw [Ledger.compareAll_cons, hl]
    rfl
  refine ⟨l, ?_, fun e he => ?_⟩
  · rw [differences_eq (a := .schema x) (b := .schema y) rfl]
    exact congrArg (Except.map _) run
  · rcases Ledger.compare_eq_ok hl with ⟨rfl, -⟩ | ⟨rfl, -⟩
    · cases he
    · rcases Keyed.mem_insert he with rfl | he
      · rfl
      · cases he

end Differences

/-! ## Comparing with the renamed document -/

open Identity

namespace Document

variable {D : Document} {origin : Nat} {s : Snapshot}

/-- No object is without identity when no entry of a key is. -/
theorem isAnonymous_of_mem (hs : D.resolve origin = .ok s)
    (hp : ∀ e ∈ D.primaryKeys, e.isAnonymous = false)
    (hf : ∀ e ∈ D.foreignKeys, e.isAnonymous = false) {o : Object} (ho : o ∈ s.objects) :
    isAnonymous o = false := by
  obtain ⟨x, rfl⟩ := resolve_eq_ok.1 hs
  cases o with
  | primaryKey k =>
    obtain ⟨e, he, _, step⟩ :=
      mem_resolveAll x.resolvePrimaryKeys (by simpa [Sections.snapshot] using ho)
    rw [(isAnonymous_of_resolvePrimaryKey step).1, hp e he]
  | foreignKey k =>
    obtain ⟨e, he, _, step⟩ :=
      mem_resolveAll x.resolveForeignKeys (by simpa [Sections.snapshot] using ho)
    rw [(isAnonymous_of_resolveForeignKey step).1, hf e he]
  | _ => rfl

end Document

variable {D : Document} {o₁ o₂ : Nat} {s₁ : Snapshot}

/-- A document and the renamed one mirror each other. -/
theorem exists_mirrors_of_renamed {ν : String → String} (h₁ : D.resolve o₁ = .ok s₁)
    (hν : KeepsSchemas d p o₂ ν) (hp : p.includeCatalog = false)
    (identified : ∀ o ∈ s₁.objects, isAnonymous o = false) :
    ∃ ledger, Mirrors ((Rulebook.builtin d).judge d p) p (·.recast o₂ ν) (fun _ => false) ledger
      s₁.objects := by
  have found (o : Object) : ∃ l, o ∈ s₁.objects →
      ((Rulebook.builtin d).judge d p).differences (some o) (some (o.recast o₂ ν)) [] = .ok l ∧
        ¬Reported p ⟨o, o.recast o₂ ν, l⟩ := by
    by_cases container : o.kind = .schema
    -- A schema has another name than its copy, which is not reported of containers.
    · obtain ⟨x, rfl⟩ : ∃ x, o = .schema x := by
        cases o <;> cases container
        exact ⟨_, rfl⟩
      obtain ⟨l, hl, names⟩ :=
        Differences.schemas_differ_in_name (d := d) (p := p) x (x.recast o₂ ν)
      refine ⟨l, fun _ => ⟨hl, fun reported => ?_⟩⟩
      rcases reported.2 (.inr rfl) with catalogs | ⟨e, he, other⟩
      · rw [hp] at catalogs
        cases catalogs
      · exact other (names e he)
    -- No other object has a name of a schema as a field of its own: the ledger stays empty.
    · refine ⟨Ledger.new p o.kind, fun ho => ⟨?_, fun reported => reported.1 rfl⟩⟩
      refine Differences.differences_of_alike
        (Object.alike_recast hν (Document.withoutNan_of_mem h₁ ho) ?_)
      rintro x rfl
      exact absurd rfl container
  choose ledger hledger using found
  exact ⟨ledger, {
    meet := fun o _ => by
      rw [Rulebook.judge_keysMeet_iff, keysOf_recast]
      exact meet_self _
    same := fun o ho _ => by rw [Rulebook.judge_same, hν.same (identified o ho)]
    apart := fun o _ o' _ => nofun
    differ := fun o ho _ => (hledger o ho).1
    unreported := fun o ho _ => (hledger o ho).2 }⟩

/-- An alias makes a renamed schema invisible: a document does not differ from the one in which a
schema has the name that the alias gives it on the other side, as long as no other schema has this
name. Keys that nothing identifies are never found again. -/
theorem areEqual_of_renamed_schema (h₁ : D.resolve o₁ = .ok s₁)
    (free : ∀ e ∈ D.schemas, e.name ≠ c) (hd : d.hasSchemas = true)
    (hp : p.includeCatalog = false) (ha : a ∈ p.aliases) (hr : a.reference.schema = some r)
    (hc : a.comparison.schema = some c) (primaryKeys : ∀ e ∈ D.primaryKeys, e.isAnonymous = false)
    (foreignKeys : ∀ e ∈ D.foreignKeys, e.isAnonymous = false) (o₂ : Nat) :
    ∃ s₂ f, (D.renameSchemas (Function.update id r c)).resolve o₂ = .ok s₂ ∧
      compareSnapshots ((Rulebook.builtin d).judge d p) p s₁ s₂ = .ok f ∧ f.areEqual = true := by
  have injective : Set.InjOn (Function.update id r c) {n | ∃ e ∈ D.schemas, e.name = n} := by
    rintro _ ⟨e, he, rfl⟩ _ ⟨e', he', rfl⟩ same
    have := free e he
    have := free e' he'
    grind [Function.update_apply]
  obtain ⟨s₂, h₂, objects⟩ := Document.resolve_renameSchemas h₁ injective o₂
  have kept := keepsSchemas_update hd hp ha hr hc o₂
  have identified (o : Object) (ho : o ∈ s₁.objects) :=
    Document.isAnonymous_of_mem h₁ primaryKeys foreignKeys ho
  obtain ⟨ledger, mirrors⟩ := exists_mirrors_of_renamed h₁ kept hp identified
  have run := mirrors.compareSnapshots_eq_ok objects fun o _ => Object.kind_recast o
  exact ⟨s₂, _, h₂, run, by simp [Findings.areEqual, Findings.start]⟩

/-- Two aliases, the second of which renames the schema `sales`. -/
def renamedSales : Policy :=
  { Policy.standard with
    aliases := [⟨.parse "hr", .parse "staff"⟩, ⟨.parse "shop.sales", .parse "orders_archive"⟩] }

theorem areEqual_of_renamed_schema_sales :
    ∃ s₁ s₂ f, Document.ordersTwice.resolve 0 = .ok s₁ ∧
      (Document.ordersTwice.renameSchemas (Function.update id "sales" "orders_archive")).resolve 1 =
        .ok s₂ ∧
      compareSnapshots ((Rulebook.builtin .postgres).judge .postgres renamedSales) renamedSales
        s₁ s₂ = .ok f ∧ f.areEqual = true := by
  have h₁ : Document.ordersTwice.resolve 0 = .ok _ := rfl
  obtain ⟨s₂, f, h₂, run, equal⟩ := areEqual_of_renamed_schema h₁ (by decide +kernel)
    rfl rfl (p := renamedSales) (List.mem_cons_of_mem _ List.mem_cons_self)
    (by decide +kernel) (by decide +kernel) (by decide +kernel) (by decide +kernel) 1
    (d := .postgres) (r := "sales") (c := "orders_archive")
  exact ⟨_, s₂, f, h₁, h₂, run, equal⟩

end SchemaDelta

import SchemaDelta.Proofs.Meeting
import SchemaDelta.Proofs.Mirror
import SchemaDelta.Proofs.Reordering
import SchemaDelta.Proofs.Totality

/-!
# Snapshots compared with themselves

Every object of a snapshot finds itself, whatever else is the same, and it differs from itself
only where a `nan` is in a value: no number equals that. So a snapshot without `nan` does not
differ from itself, and any other has changed in exactly the fields that hold one.

## Main definitions

* `Object.nanFields` — the fields in which an object differs from itself.
-/

namespace SchemaDelta

open Fallible

/-- The fields with a `nan` in their values that are compared. -/
def Object.nanFields (p : Policy) (o : Object) : List Field :=
  match o.kind with
  | .catalog | .schema => []
  | k => o.fields.filter fun f => !p.isSuppressed k f && (o.get? f).any Value.hasNan

variable {d : Dialect} {p : Policy} {o : Object} {f : Field} {test : Criterion} {l : Ledger}

theorem Object.mem_nanFields (hcatalog : o.kind ≠ .catalog) (hschema : o.kind ≠ .schema) :
    f ∈ o.nanFields p ↔ f ∈ o.fields ∧ p.isSuppressed o.kind f = false ∧
      (o.get? f).any Value.hasNan = true := by
  unfold nanFields
  split
  · contradiction
  · contradiction
  · simp

theorem Object.nanFields_container (h : o.kind = .catalog ∨ o.kind = .schema) :
    o.nanFields p = [] := by
  unfold nanFields
  rcases h with h | h <;> rw [h]

namespace Differences

/-! ## One object -/

theorem byValues_self (v : Value) : byValues d p (some v) (some v) v v = .ok (!v.hasNan) := by
  cases v with
  | object => exact byName_self _
  | dataType t => simp [byValues, Criterion.dataType, Criterion.compatibleTypes,
      Text.sameIgnoringCase, Value.hasNan]
  | autoIncrement t => simp [byValues, Criterion.byText, Text.sameIgnoringCase, Value.hasNan]
  | _ => exact plain_self _

/-- A field agrees with itself, unless there is a `nan` in its value. -/
theorem agree?_self (o : Object) (f : Field) :
    Ledger.agree? o o f (criterionOf d p o o f) = .ok (!(o.get? f).any Value.hasNan) := by
  rw [Ledger.agree?]
  cases hv : o.get? f with
  | none => rw [Ledger.facing_eq, hv]; rfl
  | some v =>
    rw [Ledger.facing_of_isList_eq hv hv rfl]
    change criterionOf d p o o f v v = .ok (!v.hasNan)
    rw [criterionOf, hv]
    cases own : (ownCriteria d p o.kind).lookup f with
    | none => exact byValues_self v
    | some test =>
      have mem := mem_of_lookup_ownCriteria own
      have clean := (Object.holds_of_get? hv).hasNan (closed_of_ownCriteria mem)
      rw [Option.getD_some, pass_of_ownCriteria mem hv (.refl clean), clean, Bool.not_false]

theorem exists_differences_self (o : Object) :
    ∃ l, ((Rulebook.builtin d).judge d p).differences (some o) (some o) [] = .ok l := by
  rw [differences_eq rfl, exists_map_iff]
  apply exists_eq_ok_of_failsOnly
  apply Ledger.failsOnly_compareAll
  rintro ⟨f, test⟩ ht
  exact .of_eq_ok ((agree?_of_mem_tests ht).trans (agree?_self o f))

theorem mem_fields_adjust_self :
    f ∈ (adjust d p o o l).fields ↔ f ∈ l.fields ∧ f ∉ withdrawn d o o := by
  cases o <;> simp only [adjust, adjustOwn, withdrawn, id_eq, List.not_mem_nil, not_false_eq_true,
    and_true]
  next => split <;> simp [Ledger.fields, Ledger.withdraw]
  next => split <;> simp [Ledger.fields, Ledger.withdraw]

/-- Differences are reported wherever values are left open. -/
theorem closed_of_unreported {a b : Object} (h : f ∈ unreported d p a b) : f.isOpen = false := by
  unfold unreported at h
  split at h <;> grind [Field.isOpen, Field.isCustom]

theorem mem_reportable_self (left : f.isOpen = true) (hcatalog : o.kind ≠ .catalog)
    (hschema : o.kind ≠ .schema) : f ∈ reportable d p o o ↔ f ∈ o.fields := by
  have reported : f ∉ unreported d p o o := by
    intro h
    rw [closed_of_unreported h] at left
    cases left
  unfold reportable
  split
  · contradiction
  · contradiction
  · simp [reported]

/-- An object differs from itself in the fields that hold a `nan`, as far as they are compared. -/
theorem mem_differences_self
    (h : ((Rulebook.builtin d).judge d p).differences (some o) (some o) [] = .ok l) :
    f ∈ l.fields ↔ f ∈ o.nanFields p := by
  rw [differences_eq rfl] at h
  obtain ⟨m, hm, rfl⟩ := map_eq_ok.1 h
  have tested : f ∈ (adjust d p o o m).fields ↔ p.isSuppressed o.kind f = false ∧
      f ∈ reportable d p o o ∧ (o.get? f).any Value.hasNan = true := by
    have start : Keyed.Sorted (Ledger.new p o.kind).entries := .nil
    have none : f ∉ (Ledger.new p o.kind).fields := List.not_mem_nil
    have suppressed : f ∈ (Ledger.new p o.kind).suppressed ↔ p.isSuppressed o.kind f = true :=
      mem_suppressedFields
    have decided (test : Criterion) (ht : (f, test) ∈ tests d p o o) :
        Ledger.Differ o o f test ↔ (o.get? f).any Value.hasNan = true := by
      rw [Ledger.Differ, agree?_of_mem_tests ht, agree?_self]
      simp
    rw [mem_fields_adjust_self, Ledger.mem_fields_compareAll start hm,
      mem_reportable (rfl : o.kind = o.kind), suppressed]
    grind
  have left (hnan : (o.get? f).any Value.hasNan = true) : f.isOpen = true := by
    obtain ⟨v, hv, hnan⟩ := (Option.any_eq_true ..).1 hnan
    by_contra closed
    rw [(Object.holds_of_get? hv).hasNan (by simpa using closed)] at hnan
    cases hnan
  rw [tested]
  by_cases container : o.kind = .catalog ∨ o.kind = .schema
  · rw [Object.nanFields_container container]
    have name : reportable d p o o = [.name] := by
      unfold reportable
      rcases container with h | h <;> rw [h]
    have clean : f = .name → f.isOpen = false := by
      rintro rfl
      rfl
    rw [name, List.mem_singleton]
    grind
  · rw [not_or] at container
    rw [Object.mem_nanFields container.1 container.2]
    constructor
    · rintro ⟨reported, mem, hnan⟩
      exact ⟨(mem_reportable_self (left hnan) container.1 container.2).1 mem, reported, hnan⟩
    · rintro ⟨mem, reported, hnan⟩
      exact ⟨reported, (mem_reportable_self (left hnan) container.1 container.2).2 mem, hnan⟩

end Differences

/-! ## One snapshot -/

/-- What differs in a `nan` is reported: containers do not. -/
theorem reported_self_iff (h : ∀ f, f ∈ l.fields ↔ f ∈ o.nanFields p) :
    Reported p ⟨o, o, l⟩ ↔ o.nanFields p ≠ [] := by
  have fields : l.fields = [] ↔ o.nanFields p = [] := by
    simp only [List.eq_nil_iff_forall_not_mem, h]
  have entries : l.entries ≠ [] ↔ o.nanFields p ≠ [] := by
    rw [ne_eq, ne_eq, ← fields, Ledger.fields, List.map_eq_nil_iff]
  rw [Reported, entries, and_iff_left_iff_imp]
  intro differ container
  exact absurd (Object.nanFields_container container) differ

theorem reflects_self {ledger : Object → Ledger}
    (h : ∀ o, ((Rulebook.builtin d).judge d p).differences (some o) (some o) [] = .ok (ledger o))
    (objects : List Object) :
    Reflects ((Rulebook.builtin d).judge d p) id (fun _ => false) ledger objects where
  meet o _ := by
    rw [Rulebook.judge_keysMeet_iff]
    exact Identity.meet_self _
  same o _ _ := by
    rw [Rulebook.judge_same]
    simp [Identity.same]
  apart o _ o' _ := nofun
  differ o _ _ := h o

/-- Each object with a `nan` has changed into itself. -/
theorem changed_self {ledger : Object → Ledger}
    (h : ∀ o f, f ∈ (ledger o).fields ↔ f ∈ o.nanFields p) (S : Snapshot) :
    p.orderedKinds.flatMap (Reflects.changedOf p id (fun _ => false) ledger S) =
      ((p.orderedKinds.flatMap S.ofKind).filter fun o => o.nanFields p ≠ []).map
        fun o => ⟨o, o, ledger o⟩ := by
  rw [List.filter_flatMap, List.map_flatMap]
  refine List.flatMap_congr fun k _ => ?_
  rw [Reflects.changedOf, List.filter_map]
  simp [Function.comp_def, reported_self_iff (h _)]

/-- Comparing a snapshot with itself finds nothing but `nan`, which no number equals. Every object
finds itself, also among others that are the same, so that none is missing and none unexpected. What
has changed are the compared objects with a `nan` in a value that is not suppressed, each against
itself, and in no other fields than those. -/
theorem compareSnapshots_self (d : Dialect) (p : Policy) (S : Snapshot) :
    ∃ f, compareSnapshots ((Rulebook.builtin d).judge d p) p S S = .ok f ∧
      f.missing = [] ∧ f.unexpected = [] ∧
      f.changed.map (fun x => (x.reference, x.comparison)) =
        ((p.orderedKinds.flatMap S.ofKind).filter fun o => o.nanFields p ≠ []).map
          (fun o => (o, o)) ∧
      (∀ x ∈ f.changed, ∀ g, g ∈ x.ledger.fields ↔ g ∈ x.reference.nanFields p) ∧
      (f.areEqual = true ↔ ∀ o ∈ S.objects, o.kind ∈ p.kinds → o.nanFields p = []) := by
  have found (o : Object) := Differences.exists_differences_self (d := d) (p := p) o
  choose ledger hledger using found
  have fields (o : Object) (f : Field) := Differences.mem_differences_self (f := f) (hledger o)
  have run := (reflects_self hledger S.objects).compareSnapshots_eq_ok (p := p)
    (List.map_id _).symm fun o _ => rfl
  rw [changed_self fields] at run
  refine ⟨_, run, by simp, by simp, by simp [Function.comp_def], ?_, ?_⟩
  · intro x hx g
    obtain ⟨o, -, rfl⟩ := List.mem_map.1 hx
    exact fields o g
  · rw [Findings.areEqual_iff]
    constructor
    · rintro ⟨-, -, unchanged⟩ o ho hk
      rw [List.map_eq_nil_iff, List.filter_eq_nil_iff] at unchanged
      have compared : o ∈ p.orderedKinds.flatMap S.ofKind :=
        List.mem_flatMap.2 ⟨o.kind, mem_orderedKinds.2 hk, mem_ofKind.2 ⟨ho, rfl⟩⟩
      simpa using unchanged o compared
    · intro clean
      refine ⟨by simp, by simp, ?_⟩
      rw [List.map_eq_nil_iff, List.filter_eq_nil_iff]
      intro o ho
      obtain ⟨k, hk, ho⟩ := List.mem_flatMap.1 ho
      obtain ⟨mem, rfl⟩ := mem_ofKind.1 ho
      simpa using clean o mem (mem_orderedKinds.1 hk)

/-- A table with a custom attribute that is `nan`. -/
def nanTable : Object :=
  .table ⟨.entry 0 .table 0, some "t", none, none, none, none, [("v", .number (.float .nan))]⟩

/-- One table that stands on both sides has changed. -/
theorem nanTable_differs :
    let j := (Rulebook.builtin .postgres).judge .postgres .standard
    let S : Snapshot := ⟨none, none, [nanTable]⟩
    (compareSnapshots j .standard S S).map (·.areEqual) = .ok false ∧
      (compareSnapshots j .standard S S).map
          (fun f => f.changed.flatMap fun x => x.ledger.differences.map (·.text)) =
        .ok ["v changed from 'NaN' to 'NaN'"] := by
  intro j S
  have scanned : compareSnapshots j .standard S S = scanSnapshots j .standard S S :=
    Rulebook.compareSnapshots_eq_scan (by decide +kernel)
  rw [scanned]
  constructor <;> decide +kernel

end SchemaDelta

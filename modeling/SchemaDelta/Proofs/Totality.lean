import SchemaDelta.Proofs.Account
import SchemaDelta.Proofs.Data

/-!
# Runs that cannot fail

Only one criterion fails on values that objects can have: a data type that faces a value of
another type. A field holds a data type beside other values only where a value is left to
whoever makes an object, and documents state no data types there. So comparing what documents
state always ends with findings, and no run fails on objects of a wrong kind.

## Main definitions

* `Differences.Misfit` — the error of a data type that faces another value.
-/

namespace SchemaDelta

open Fallible

variable {d : Dialect} {p : Policy} {k : Kind}

namespace Differences

/-! ## Criteria that decide -/

mutual

theorem exists_plain : (v w : Value) → ∃ agree, plain d p v w = .ok agree
  | .list vs, w => by
    cases w with
    | list ws =>
      obtain ⟨agree, h⟩ := exists_plain_items vs ws
      by_cases hlength : vs.length = ws.length
      · exact ⟨agree, by simp [plain, Criterion.standard, hlength, h]⟩
      · exact ⟨false, by simp [plain, Criterion.standard, hlength]⟩
    | _ => exact ⟨_, rfl⟩
  | .text _, w | .bool _, w | .number _, w | .dataType _, w | .autoIncrement _, w
  | .object _, w => by cases w <;> exact ⟨_, rfl⟩

theorem exists_plain_items : (vs ws : List Value) → ∃ agree,
    Criterion.standardItems (fun a b => .ok (Identity.same d p a b)) vs ws = .ok agree
  | [], _ | _ :: _, [] => ⟨true, rfl⟩
  | v :: vs, w :: ws => by
    obtain ⟨first, hfirst⟩ := exists_plain v w
    rw [plain] at hfirst
    rw [Criterion.standardItems, hfirst, ok_bind]
    cases first with
    | true => exact exists_plain_items vs ws
    | false => exact ⟨false, rfl⟩

end

mutual

theorem exists_byName : (v w : Value) → ∃ agree, Criterion.byName k d v w = .ok agree
  | .list vs, w => by
    cases w with
    | list ws =>
      obtain ⟨agree, h⟩ := exists_byNameItems vs ws
      by_cases hlength : vs.length = ws.length
      · exact ⟨agree, by simp [Criterion.byName, hlength, h]⟩
      · exact ⟨false, by simp [Criterion.byName, hlength]⟩
    | _ => exact ⟨_, rfl⟩
  | .text _, w | .bool _, w | .number _, w | .dataType _, w | .autoIncrement _, w
  | .object _, w => by cases w <;> exact ⟨_, rfl⟩

theorem exists_byNameItems :
    (vs ws : List Value) → ∃ agree, Criterion.byNameItems k d vs ws = .ok agree
  | [], _ | _ :: _, [] => ⟨true, rfl⟩
  | v :: vs, w :: ws => by
    obtain ⟨first, hfirst⟩ := exists_byName v w
    rw [Criterion.byNameItems, hfirst, ok_bind]
    cases first with
    | true => exact exists_byNameItems vs ws
    | false => exact ⟨false, rfl⟩

end

theorem exists_columnNames (as bs : List Column) :
    ∃ agree, Criterion.columnNames (.ofColumns as) (.ofColumns bs) = .ok agree := by
  have items : ∃ agree, Criterion.columnNamesPairwise (as.map fun c => .object (.column c))
      (bs.map fun c => .object (.column c)) = .ok agree := by
    induction as generalizing bs with
    | nil => exact ⟨true, rfl⟩
    | cons a as ih =>
      cases bs with
      | nil => exact ⟨true, rfl⟩
      | cons b bs =>
        rw [List.map_cons, List.map_cons, Criterion.columnNamesPairwise]
        simp only [Criterion.columnName, ok_bind]
        split
        · exact ih bs
        · exact ⟨false, rfl⟩
  obtain ⟨agree, h⟩ := items
  by_cases hlength : as.length = bs.length
  · exact ⟨agree, by simp [Value.ofColumns, Criterion.columnNames, hlength, h]⟩
  · exact ⟨false, by simp [Value.ofColumns, Criterion.columnNames, hlength]⟩

/-! ## Values of fields -/

theorem exists_onOptional {test : Criterion} (h : ∀ v w, ∃ agree, test v w = .ok agree)
    (r c : Option Value) : ∃ agree, Criterion.onOptional test r c = .ok agree := by
  cases r <;> cases c <;> first | exact ⟨_, rfl⟩ | exact h _ _

variable {a b : Object} {f : Field} {test : Criterion} {t : DataType}

/-- A criterion need only decide where both values are set. -/
theorem exists_agree?_of_set (h : ∀ v w, a.get? f = some v → b.get? f = some w →
      ∃ agree, Ledger.agree? a b f test = .ok agree) :
    ∃ agree, Ledger.agree? a b f test = .ok agree := by
  rw [Ledger.agree?, Ledger.facing_eq] at h ⊢
  cases hr : unwrap (a.get? f) (b.get? f) with
  | none => cases unwrap (b.get? f) (a.get? f) <;> exact ⟨_, rfl⟩
  | some r =>
    cases hc : unwrap (b.get? f) (a.get? f) with
    | none => exact ⟨_, rfl⟩
    | some c =>
      obtain ⟨v, hv⟩ := exists_of_unwrap hr
      obtain ⟨w, hw⟩ := exists_of_unwrap hc
      rw [← hr, ← hc]
      exact h v w hv hw

/-- The criteria of a kind always decide. -/
theorem exists_agree?_own (h : (f, test) ∈ ownCriteria d p k) :
    ∃ agree, Ledger.agree? a b f test = .ok agree := by
  cases own_of_mem h with
  | columns =>
    apply exists_agree?_of_set
    intro v w hv hw
    obtain ⟨as, rfl⟩ := Object.holds_of_get? hv
    obtain ⟨bs, rfl⟩ := Object.holds_of_get? hw
    rw [Ledger.agree?, Ledger.facing_of_isList_eq hv hw rfl]
    exact exists_columnNames as bs
  | backingIndex => exact exists_onOptional exists_plain _ _
  | named => exact exists_onOptional exists_byName _ _

/-- Data types stand in the types of columns, and where values are left open. -/
theorem of_get?_eq_dataType {o : Object} (h : o.get? f = some (.dataType t)) :
    (o.kind = .column ∧ f = .type) ∨ f.isOpen = true := by
  have holds := Object.holds_of_get? h
  cases f with
  | type => exact .inl ⟨Object.column_of_get?_type h, rfl⟩
  | defaultValue | custom => exact .inr rfl
  | this | autoIncrement => exact holds.elim
  | _ =>
    obtain ⟨x, hx⟩ := holds
    cases hx

/-- The error of a data type that faces a value of another type, where values are left open. -/
def Misfit (a b : Object) (e : CompareError) : Prop :=
  ∃ f found t, e = .attributeType f "dataType" found ∧
    f.isOpen = true ∧ (a.get? f).or (b.get? f) = some (.dataType t)

/-! ## Differences -/

theorem eq_mismatch_of_dataType {r c : Option Value} {e : CompareError}
    (h : Criterion.onOptional Criterion.dataType r c = .error e) :
    ∃ found, e = .mismatch "dataType" found := by
  cases r <;> cases c <;> try cases h
  next v w =>
    cases v with
    | dataType => cases w <;> cases h <;> exact ⟨_, rfl⟩
    | _ =>
      cases h
      exact ⟨_, rfl⟩

/-- Only the criterion of data types fails, and it is chosen for the first value that is set. -/
theorem failsOnly_byValues (hkind : a.kind = b.kind)
    (none : (ownCriteria d p a.kind).lookup f = none) :
    FailsOnly (fun e => Misfit a b (e.onField f))
      (Ledger.agree? a b f (byValues d p (a.get? f) (b.get? f))) := by
  have decides {test : Criterion} (h : ∀ v w, ∃ agree, test v w = .ok agree) :
      FailsOnly (fun e => Misfit a b (e.onField f)) (Ledger.agree? a b f test) := by
    obtain ⟨agree, h⟩ := exists_onOptional h (Ledger.facing a b f).1 (Ledger.facing a b f).2
    exact .of_eq_ok h
  unfold byValues
  split
  next o _ => exact decides exists_byName
  next t ht =>
    have left : f.isOpen = true := by
      have typed : ¬(a.kind = .column ∧ f = .type) := by
        rintro ⟨hk, rfl⟩
        have own : (ownCriteria d p .column).lookup .type = some (Criterion.byName .column d) := rfl
        rw [hk, own] at none
        cases none
      rcases Option.or_eq_some_iff.1 ht with h | ⟨-, h⟩
      · exact (of_get?_eq_dataType h).resolve_left typed
      · exact (of_get?_eq_dataType h).resolve_left (hkind ▸ typed)
    intro e he
    obtain ⟨found, rfl⟩ := eq_mismatch_of_dataType he
    exact ⟨f, found, t, rfl, left, ht⟩
  next => exact decides fun v w => ⟨_, rfl⟩
  next => exact decides exists_plain

theorem failsOnly_differences (hkind : a.kind = b.kind) :
    FailsOnly (Misfit a b)
      (((Rulebook.builtin d).judge d p).differences (some a) (some b) []) := by
  rw [differences_eq hkind]
  apply FailsOnly.map
  apply Ledger.failsOnly_compareAll
  rintro ⟨f, test⟩ ht
  rw [agree?_of_mem_tests ht, criterionOf]
  cases own : (ownCriteria d p a.kind).lookup f with
  | none => exact failsOnly_byValues hkind own
  | some test =>
    obtain ⟨agree, h⟩ := exists_agree?_own (a := a) (b := b) (mem_of_lookup_ownCriteria own)
    exact .of_eq_ok h

/-- Among data there are no data types. -/
theorem not_misfit (ha : a.HoldsData) (hb : b.HoldsData) {e : CompareError} : ¬Misfit a b e := by
  have stated {o : Object} (ho : o.HoldsData) {f : Field} {t : DataType}
      (left : f.isOpen = true) : o.get? f ≠ some (.dataType t) := by
    intro h
    have isData := ho.isData left h
    cases isData
  rintro ⟨f, found, t, -, left, h⟩
  rcases Option.or_eq_some_iff.1 h with h | ⟨-, h⟩
  · exact stated ha left h
  · exact stated hb left h

end Differences

/-! ## Runs -/

namespace Comparison

variable {j : Judge} {P : CompareError → Prop} {references objects : List Object} {r : Object}

theorem failsOnly_firstFree? {taken : List Nat}
    (same : ∀ c ∈ objects, FailsOnly P (j.same (some r) (some c))) (ps : List Nat) :
    FailsOnly P (firstFree? j objects.toArray taken r ps) := by
  induction ps with
  | nil => exact .of_eq_ok rfl
  | cons q ps ih =>
    rw [firstFree?, List.getElem?_toArray]
    split
    · exact ih
    next c hc =>
      split
      · exact ih
      · apply FailsOnly.bind (same c (List.mem_of_getElem? hc))
        intro agree _
        cases agree with
        | true => exact .of_eq_ok rfl
        | false => exact ih

/-- Pairing fails with what telling objects apart, finding keys or finding differences fails. -/
theorem failsOnly_pairAll {buckets : Buckets} {taken : List Nat}
    (keys : ∀ r ∈ references, FailsOnly P (j.keys r))
    (same : ∀ r ∈ references, ∀ c ∈ objects, FailsOnly P (j.same (some r) (some c)))
    (differences : ∀ r ∈ references, ∀ c ∈ objects,
      FailsOnly P (j.differences (some r) (some c) [])) :
    FailsOnly P (pairAll j objects.toArray buckets taken references) := by
  induction references generalizing taken with
  | nil => exact .of_eq_ok rfl
  | cons r rest ih =>
    have later {taken : List Nat} : FailsOnly P (pairAll j objects.toArray buckets taken rest) :=
      ih (fun r hr => keys r (List.mem_cons_of_mem _ hr))
        (fun r hr => same r (List.mem_cons_of_mem _ hr))
        (fun r hr => differences r (List.mem_cons_of_mem _ hr))
    rw [pairAll]
    apply FailsOnly.bind (keys r List.mem_cons_self)
    intro ks _
    apply FailsOnly.bind (failsOnly_firstFree? (same r List.mem_cons_self) _)
    intro found hfound
    cases found with
    | none =>
      apply FailsOnly.bind later
      intro outcomes _
      exact .of_eq_ok rfl
    | some found =>
      obtain ⟨q, c⟩ := found
      obtain ⟨-, -, -, hc, -⟩ := split_of_firstFree?_eq_some hfound
      apply FailsOnly.bind (differences r List.mem_cons_self c (List.mem_of_getElem? hc))
      intro l _
      apply FailsOnly.bind later
      intro outcomes _
      exact .of_eq_ok rfl

end Comparison

variable {R C : Snapshot}

/-- A run fails only where the differences of two objects of one kind cannot be found. -/
theorem failsOnly_compareSnapshots {P : CompareError → Prop}
    (h : ∀ r ∈ R.objects, ∀ c ∈ C.objects, r.kind = c.kind →
      FailsOnly P (((Rulebook.builtin d).judge d p).differences (some r) (some c) [])) :
    FailsOnly P (compareSnapshots ((Rulebook.builtin d).judge d p) p R C) := by
  apply FailsOnly.foldlM
  intro f k _
  apply FailsOnly.bind
  · apply FailsOnly.mapM
    intro o _
    exact .of_eq_ok (Rulebook.judge_keys o)
  intro keys _
  apply FailsOnly.bind
  · apply Comparison.failsOnly_pairAll
    · intro r _
      exact .of_eq_ok (Rulebook.judge_keys r)
    · intro r _ c _
      exact .of_eq_ok (Rulebook.judge_same r c)
    · intro r hr c hc
      have hr := mem_ofKind.1 hr
      have hc := mem_ofKind.1 hc
      exact h r hr.1 c hc.1 (hr.2.trans hc.2.symm)
  intro outcomes _
  exact .of_eq_ok rfl

/-- Of snapshots that hold data, every run ends with findings. -/
theorem exists_compareSnapshots_eq_ok (hR : ∀ r ∈ R.objects, r.HoldsData)
    (hC : ∀ c ∈ C.objects, c.HoldsData) :
    ∃ f, compareSnapshots ((Rulebook.builtin d).judge d p) p R C = .ok f := by
  apply exists_eq_ok_of_failsOnly
  apply failsOnly_compareSnapshots
  intro r hr c hc hkind
  refine (Differences.failsOnly_differences hkind).mono ?_
  intro e
  exact Differences.not_misfit (hR r hr) (hC c hc)

theorem exists_judge_same (a b : Option Object) :
    ∃ same, ((Rulebook.builtin d).judge d p).same a b = .ok same := by
  cases a with
  | none =>
    cases b with
    | none => exact ⟨true, rfl⟩
    | some b => exact ⟨false, Rulebook.same_judgeAt_succ (n := 5) rfl⟩
  | some a =>
    cases b with
    | none => exact ⟨false, Rulebook.same_judgeAt_succ (n := 5) rfl⟩
    | some b => exact ⟨_, Rulebook.judge_same a b⟩

/-- Documents never lead to an error. The judge of the built-in rules tells of any two objects,
present or not and of whatever kinds, whether they are the same, and knows the keys of every
object. No run hands a rule objects of a kind that it is not made for, whatever values they have.
And of two snapshots that documents resolve to every run ends with findings. -/
theorem errors_unreachable (d : Dialect) (p : Policy) :
    let j := (Rulebook.builtin d).judge d p
    (∀ a b, ∃ same, j.same a b = .ok same) ∧
    (∀ o, ∃ keys, j.keys o = .ok keys) ∧
    (∀ R C rule k, compareSnapshots j p R C ≠ .error (.unsupportedKind rule k)) ∧
    ∀ (D E : Document) (m n : Nat) (R C : Snapshot), D.resolve m = .ok R → E.resolve n = .ok C →
      ∃ f, compareSnapshots j p R C = .ok f := by
  refine ⟨exists_judge_same, fun o => ⟨_, Rulebook.judge_keys o⟩, ?_, ?_⟩
  · intro R C rule k
    have typed : FailsOnly (fun e => e ≠ .unsupportedKind rule k)
        (compareSnapshots ((Rulebook.builtin d).judge d p) p R C) := by
      apply failsOnly_compareSnapshots
      intro r _ c _ hkind
      refine (Differences.failsOnly_differences hkind).mono ?_
      rintro _ ⟨f, found, t, rfl, -⟩
      exact nofun
    intro h
    exact typed _ h rfl
  · intro D E m n R C hR hC
    exact exists_compareSnapshots_eq_ok (fun r hr => Document.holdsData_of_mem hR hr)
      fun c hc => Document.holdsData_of_mem hC hc

/-- A document of one column with a default value and a custom attribute. -/
def openColumn (default : Json) (tag : Json) : Document where
  productName := none
  productVersion := none
  catalogs := []
  schemas := []
  tables := [⟨"orders", none, none, none, none, []⟩]
  columns :=
    [{ table := "orders", schema := none, name := "id", type := some "int", nullable := none,
       defaultValue := some default, remarks := none, order := none, computed := none,
       descending := none, autoIncrement := none, attributes := [("tag", tag)] }]
  indexes := []
  primaryKeys := []
  foreignKeys := []
  uniqueConstraints := []

theorem errors_unreachable_openColumn :
    ∃ R C f, (openColumn (.integer 1) (.array [.string "key"])).resolve 0 = .ok R ∧
      (openColumn (.string "one") (.string "key")).resolve 1 = .ok C ∧
      compareSnapshots ((Rulebook.builtin .postgres).judge .postgres .standard) .standard R C =
        .ok f := by
  obtain ⟨f, run⟩ := (errors_unreachable .postgres .standard).2.2.2
    (openColumn (.integer 1) (.array [.string "key"])) (openColumn (.string "one") (.string "key"))
    0 1 _ _ rfl rfl
  exact ⟨_, _, f, rfl, rfl, run⟩

end SchemaDelta

import SchemaDelta.Proofs.Account
import SchemaDelta.Proofs.Meeting

/-!
# Hidden primary keys

A primary key is identified by its table, or else by its name without the blanks around
it, but it is found under both names as they are written, in lower case. So two primary
keys can be the same although no key leads from one to the other; a blank around a name
is enough. These pairs and no others are told as missing on one side and unexpected on
the other.

## Main definitions

* `Identity.Hidden` — primary keys that are the same and have no key in common.
-/

namespace SchemaDelta

variable {j : Judge} {p : Policy} {R C : Snapshot} {f : Findings} {k : Kind}

/-! ## Keys that never meet -/

namespace Comparison

variable {objects references : List Object} {taken : List Nat}

/-- Objects whose keys meet none stay unpaired. -/
theorem pairAll_of_not_keysMeet {keys : List Keys} (hkeys : objects.mapM j.keys = .ok keys)
    (known : ∀ r ∈ references, ∃ ks, j.keys r = .ok ks)
    (apart : ∀ r ∈ references, ∀ c ∈ objects, ¬j.KeysMeet r c) :
    pairAll j objects.toArray (Buckets.ofKeys keys) taken references =
      .ok (references.map .unpaired) := by
  induction references with
  | nil => rfl
  | cons r rest ih =>
    obtain ⟨ks, hr⟩ := known r List.mem_cons_self
    have none : (Buckets.ofKeys keys).candidates ks = [] := by
      refine List.eq_nil_iff_forall_not_mem.2 ?_
      intro q hq
      obtain ⟨c, hc, meet⟩ := (mem_candidates_iff_keysMeet hkeys hr).1 hq
      exact apart r List.mem_cons_self c (List.mem_of_getElem? hc) meet
    have later := ih (fun r hr => known r (List.mem_cons_of_mem _ hr))
      fun r hr => apart r (List.mem_cons_of_mem _ hr)
    simp [pairAll, hr, none, firstFree?, later, Fallible.pure_eq]

theorem findingsOfKind_of_not_keysMeet
    (known : ∀ o ∈ R.ofKind k ++ C.ofKind k, ∃ ks, j.keys o = .ok ks)
    (apart : ∀ r ∈ R.ofKind k, ∀ c ∈ C.ofKind k, ¬j.KeysMeet r c) (f : Findings) :
    ∃ g, findingsOfKind j R C f k = .ok g := by
  obtain ⟨keys, hkeys⟩ := Fallible.exists_mapM_eq_ok fun c (hc : c ∈ C.ofKind k) =>
    known c (List.mem_append_right _ hc)
  rw [findingsOfKind, hkeys, Fallible.ok_bind,
    pairAll_of_not_keysMeet hkeys (fun r hr => known r (List.mem_append_left _ hr)) apart]
  exact ⟨_, rfl⟩

end Comparison

theorem Pairing.eq_none_of_not_keysMeet {references objects : List Object}
    {m : Pairing references objects} (settles : m.Settles j)
    (apart : ∀ r ∈ references, ∀ c ∈ objects, ¬j.KeysMeet r c) (i : Fin references.length) :
    m.partner i = none :=
  Option.eq_none_iff_forall_ne_some.2 fun _ hq =>
    apart _ (List.get_mem ..) _ (List.get_mem ..) (settles.meet hq)

theorem Pairing.unpaired_of_eq_none {references objects : List Object}
    {m : Pairing references objects} (h : ∀ i, m.partner i = none) :
    m.unpairedReferences = references ∧ m.unpairedObjects = objects := by
  constructor
  · simp [unpairedReferences, h, List.map_get_finRange]
  · simp [unpairedObjects, h, List.map_get_finRange]

/-- Two sides whose keys never meet are told as missing and unexpected altogether. -/
theorem exists_findings_of_not_keysMeet
    (known : ∀ o ∈ R.objects ++ C.objects, ∃ ks, j.keys o = .ok ks)
    (apart : ∀ r ∈ R.objects, ∀ c ∈ C.objects, ¬j.KeysMeet r c) :
    ∃ f, compareSnapshots j p R C = .ok f ∧ ∀ k ∈ p.kinds,
      f.missingOf k = (R.ofKind k).filter (fun r => !Findings.standsForExpression r) ∧
      f.unexpectedOf k = C.ofKind k := by
  have mem {s : Snapshot} {k : Kind} {o : Object} (h : o ∈ s.ofKind k) : o ∈ s.objects :=
    (mem_ofKind.1 h).1
  have apart (k : Kind) : ∀ r ∈ R.ofKind k, ∀ c ∈ C.ofKind k, ¬j.KeysMeet r c := by
    intro r hr c hc
    exact apart r (mem hr) c (mem hc)
  have known (k : Kind) : ∀ o ∈ R.ofKind k ++ C.ofKind k, ∃ ks, j.keys o = .ok ks := by
    intro o ho
    exact known o (List.mem_append.2 ((List.mem_append.1 ho).imp mem mem))
  obtain ⟨f, hf⟩ : ∃ f, compareSnapshots j p R C = .ok f :=
    Fallible.exists_foldlM_eq_ok (fun f k =>
      Comparison.findingsOfKind_of_not_keysMeet (known k) (apart k) f) _ _
  refine ⟨f, hf, ?_⟩
  intro k hk
  obtain ⟨m, explains⟩ := (accounted_compareSnapshots hf).explained k (mem_orderedKinds.2 hk)
  have unpaired := Pairing.unpaired_of_eq_none
    (Pairing.eq_none_of_not_keysMeet explains.settles (apart k))
  rw [explains.missing, explains.unexpected, unpaired.1, unpaired.2]
  exact ⟨rfl, rfl⟩

/-! ## Primary keys -/

namespace Identity

variable {d : Dialect} {a b : PrimaryKey}

/-- The names that a primary key is found under, its own and that of its table, in lower case. -/
def keyTexts (k : PrimaryKey) : List String :=
  (k.name.toList ++ (k.table.bind (·.name)).toList).map Text.lower

/-- Primary keys that are the same, by their tables or by their names, and have no key in common. -/
inductive Hidden (d : Dialect) (p : Policy) (a b : PrimaryKey) : Prop where
  | ofTables {t u : Table} (left : Rule.PrimaryKey.tableWithName a.table = some t)
      (right : Rule.PrimaryKey.tableWithName b.table = some u)
      (same : tables d p (some t) (some u)) (apart : (keyTexts a).Disjoint (keyTexts b))
  | ofNames {m n : String}
      (unowned : Rule.PrimaryKey.tableWithName a.table = none ∨
        Rule.PrimaryKey.tableWithName b.table = none)
      (left : a.name = some m) (right : b.name = some n)
      (shown : Text.trim m ≠ "" ∧ Text.trim n ≠ "")
      (same : Text.sameIgnoringCase (Text.trim m) (Text.trim n))
      (apart : (keyTexts a).Disjoint (keyTexts b))

theorem tableWithName_eq_some {t : Option Table} {u : Table} :
    Rule.PrimaryKey.tableWithName t = some u ↔ t = some u ∧ u.name.isSome := by
  simp [Rule.PrimaryKey.tableWithName, Option.filter_eq_some_iff]

theorem primaryKeyKeys_eq (h : a.name.isSome ∨ (a.table.bind (·.name)).isSome) :
    primaryKeyKeys a = some (keyTexts a) ∧ keyTexts a ≠ [] := by
  unfold primaryKeyKeys keyTexts
  cases hn : a.name with
  | some n =>
    cases (a.table.bind (·.name)) <;> simp
  | none =>
    cases ht : a.table with
    | none => simp [hn, ht] at h
    | some t =>
      cases hm : t.name with
      | none => simp [hn, ht, hm] at h
      | some m => simp [hm, nameKey]

theorem not_meet_iff {ks ls : List String} (hks : ks ≠ []) (hls : ls ≠ []) :
    ¬Buckets.Meet (some ks) (some ls) ↔ ks.Disjoint ls := by
  simp [Buckets.Meet, hks, hls, List.Disjoint]

theorem foldedName_eq_some {name : Option String} {s : String} :
    Rule.PrimaryKey.foldedName name = some s ↔
      ∃ n, name = some n ∧ Text.trim n ≠ "" ∧ Text.lower (Text.trim n) = s := by
  cases name <;> simp [Rule.PrimaryKey.foldedName, Option.filter_eq_some_iff, and_assoc]

theorem primaryKeysAlike_of_tables {t u : Table}
    (ht : Rule.PrimaryKey.tableWithName a.table = some t)
    (hu : Rule.PrimaryKey.tableWithName b.table = some u) :
    primaryKeysAlike d p a b = tables d p (some t) (some u) := by
  unfold primaryKeysAlike
  rw [ht, hu]

theorem primaryKeysAlike_of_names
    (unowned : Rule.PrimaryKey.tableWithName a.table = none ∨
      Rule.PrimaryKey.tableWithName b.table = none) :
    primaryKeysAlike d p a b = true ↔
      ∃ m n, a.name = some m ∧ b.name = some n ∧ (Text.trim m ≠ "" ∧ Text.trim n ≠ "") ∧
        Text.sameIgnoringCase (Text.trim m) (Text.trim n) = true := by
  have byName : primaryKeysAlike d p a b = true ↔
      ∃ s, Rule.PrimaryKey.foldedName a.name = some s ∧
        Rule.PrimaryKey.foldedName b.name = some s := by
    unfold primaryKeysAlike
    split
    · next ht hu => simp [ht, hu] at unowned
    · cases Rule.PrimaryKey.foldedName a.name with
      | none => simp
      | some s =>
        cases Rule.PrimaryKey.foldedName b.name with
        | none => simp
        | some s' => simpa using eq_comm
  rw [byName]
  simp only [foldedName_eq_some, Text.sameIgnoringCase, beq_iff_eq]
  constructor
  · rintro ⟨_, ⟨m, hm, hm', rfl⟩, n, hn, hn', same⟩
    exact ⟨m, n, hm, hn, ⟨hm', hn'⟩, same.symm⟩
  · rintro ⟨m, n, hm, hn, ⟨hm', hn'⟩, same⟩
    exact ⟨_, ⟨m, hm, hm', rfl⟩, n, hn, hn', same.symm⟩

/-- Primary keys that are alike are found under some name each. -/
theorem isSome_of_primaryKeysAlike (h : primaryKeysAlike d p a b = true) :
    (a.name.isSome ∨ (a.table.bind (·.name)).isSome) ∧
      (b.name.isSome ∨ (b.table.bind (·.name)).isSome) := by
  cases ht : Rule.PrimaryKey.tableWithName a.table with
  | none =>
    obtain ⟨m, n, hm, hn, -⟩ := (primaryKeysAlike_of_names (.inl ht)).1 h
    simp [hm, hn]
  | some t =>
    cases hu : Rule.PrimaryKey.tableWithName b.table with
    | none =>
      obtain ⟨m, n, hm, hn, -⟩ := (primaryKeysAlike_of_names (.inr hu)).1 h
      simp [hm, hn]
    | some u =>
      obtain ⟨ht, ht'⟩ := tableWithName_eq_some.1 ht
      obtain ⟨hu, hu'⟩ := tableWithName_eq_some.1 hu
      simp [ht, hu, ht', hu']

/-- The pairs that are the same without a key in common are the hidden ones. -/
theorem same_and_not_meet_iff :
    same d p (.primaryKey a) (.primaryKey b) = true ∧
      ¬Buckets.Meet (keysOf (.primaryKey a)) (keysOf (.primaryKey b)) ↔ Hidden d p a b := by
  have apart (h : primaryKeysAlike d p a b = true) :
      ¬Buckets.Meet (primaryKeyKeys a) (primaryKeyKeys b) ↔
        (keyTexts a).Disjoint (keyTexts b) := by
    obtain ⟨ha, hb⟩ := isSome_of_primaryKeysAlike h
    obtain ⟨hka, hka'⟩ := primaryKeyKeys_eq ha
    obtain ⟨hkb, hkb'⟩ := primaryKeyKeys_eq hb
    rw [hka, hkb, not_meet_iff hka' hkb']
  constructor
  · rintro ⟨hsame, hmeet⟩
    have h : primaryKeysAlike d p a b = true := by
      rcases Bool.or_eq_true_iff.1 hsame with heq | h
      · rw [decide_eq_true_iff] at heq
        exact absurd (heq ▸ meet_self _) hmeet
      · exact h
    have apart := (apart h).1 hmeet
    cases ht : Rule.PrimaryKey.tableWithName a.table with
    | none =>
      obtain ⟨m, n, hm, hn, shown, same⟩ := (primaryKeysAlike_of_names (.inl ht)).1 h
      exact .ofNames (.inl ht) hm hn shown same apart
    | some t =>
      cases hu : Rule.PrimaryKey.tableWithName b.table with
      | none =>
        obtain ⟨m, n, hm, hn, shown, same⟩ := (primaryKeysAlike_of_names (.inr hu)).1 h
        exact .ofNames (.inr hu) hm hn shown same apart
      | some u => exact .ofTables ht hu (primaryKeysAlike_of_tables ht hu ▸ h) apart
  · intro hidden
    obtain ⟨h, hdisjoint⟩ :
        primaryKeysAlike d p a b = true ∧ (keyTexts a).Disjoint (keyTexts b) := by
      cases hidden with
      | ofTables ht hu same disjoint =>
        exact ⟨(primaryKeysAlike_of_tables ht hu).trans same, disjoint⟩
      | ofNames unowned hm hn shown same disjoint =>
        exact ⟨(primaryKeysAlike_of_names unowned).2 ⟨_, _, hm, hn, shown, same⟩, disjoint⟩
    exact ⟨by rw [same, alike, h, Bool.or_true], (apart h).2 hdisjoint⟩

end Identity

open Rulebook Identity

variable {d : Dialect} {a b : PrimaryKey}

/-- To the judge of the built-in rules, too, the hidden pairs are the same without a common key. -/
theorem judge_same_and_not_keysMeet_iff :
    ((builtin d).judge d p).same (some (.primaryKey a)) (some (.primaryKey b)) = .ok true ∧
        ¬((builtin d).judge d p).KeysMeet (.primaryKey a) (.primaryKey b) ↔ Hidden d p a b := by
  rw [judge_keysMeet_iff, judge_same, Except.ok.injEq]
  exact same_and_not_meet_iff

/-- A run over two hidden primary keys finds nothing but these two. -/
theorem exists_findings_of_hidden (h : Hidden d p a b) (hp : .primaryKey ∈ p.kinds) :
    ∃ f, compareSnapshots ((builtin d).judge d p) p ⟨none, none, [.primaryKey a]⟩
        ⟨none, none, [.primaryKey b]⟩ = .ok f ∧
      f.missingOf .primaryKey = [.primaryKey a] ∧ f.unexpectedOf .primaryKey = [.primaryKey b] := by
  have apart := (judge_same_and_not_keysMeet_iff.2 h).2
  obtain ⟨f, hf, found⟩ := exists_findings_of_not_keysMeet (p := p)
    (R := ⟨none, none, [.primaryKey a]⟩) (C := ⟨none, none, [.primaryKey b]⟩)
    (fun o _ => ⟨_, judge_keys o⟩) (by simpa using apart)
  exact ⟨f, hf, found .primaryKey hp⟩

/-- Of two primary keys that are the same, keys lead from one to the other unless they are hidden
from each other; and exactly those that are hidden does some run tell as missing and unexpected. -/
theorem hidden_primaryKeys_iff (hp : .primaryKey ∈ p.kinds) :
    let j := (builtin d).judge d p
    (j.same (some (.primaryKey a)) (some (.primaryKey b)) = .ok true ∧
        ¬j.KeysMeet (.primaryKey a) (.primaryKey b) ↔ Hidden d p a b) ∧
      (j.same (some (.primaryKey a)) (some (.primaryKey b)) = .ok true ∧
        (∃ R C f, compareSnapshots j p R C = .ok f ∧ .primaryKey a ∈ f.missing ∧
          .primaryKey b ∈ f.unexpected) ↔ Hidden d p a b) := by
  intro j
  refine ⟨judge_same_and_not_keysMeet_iff, ?_, ?_⟩
  · rintro ⟨hsame, R, C, f, hf, ha, hb⟩
    refine judge_same_and_not_keysMeet_iff.1 ⟨hsame, ?_⟩
    intro meet
    have differ := same_of_missing_of_unexpected hf ha hb rfl meet
    rw [hsame] at differ
    cases differ
  · intro h
    obtain ⟨f, hf, missing, unexpected⟩ := exists_findings_of_hidden h hp
    have ha : Object.primaryKey a ∈ f.missingOf .primaryKey := by simp [missing]
    have hb : Object.primaryKey b ∈ f.unexpectedOf .primaryKey := by simp [unexpected]
    exact ⟨(judge_same_and_not_keysMeet_iff.2 h).1, _, _, f, hf, (List.mem_filter.1 ha).1,
      (List.mem_filter.1 hb).1⟩

/-- A primary key of which no more than its name is known. -/
def barePrimaryKey (origin : Nat) (name : String) : PrimaryKey :=
  ⟨.entry origin .primaryKey 0, some name, none, [], none, []⟩

theorem hidden_barePrimaryKeys :
    Hidden .postgres .standard (barePrimaryKey 0 " PK_USERS ") (barePrimaryKey 1 "pk_users") := by
  have apart : ∀ x ∈ keyTexts (barePrimaryKey 0 " PK_USERS "),
      x ∉ keyTexts (barePrimaryKey 1 "pk_users") := by decide
  exact .ofNames (.inl rfl) rfl rfl (by decide) (by decide) fun x hx => apart x hx

theorem hidden_primaryKeys_iff_padded :
    let j := (builtin .postgres).judge .postgres .standard
    ∃ R C f, compareSnapshots j .standard R C = .ok f ∧
      .primaryKey (barePrimaryKey 0 " PK_USERS ") ∈ f.missing ∧
      .primaryKey (barePrimaryKey 1 "pk_users") ∈ f.unexpected :=
  ((hidden_primaryKeys_iff (by decide)).2.2 hidden_barePrimaryKeys).2

/-- A blank around a name hides a primary key that is the same, and a run tells both sides of it. -/
theorem padded_primaryKey_told_twice :
    let j := (builtin .postgres).judge .postgres .standard
    let a : Object := .primaryKey (barePrimaryKey 0 " PK_USERS ")
    let b : Object := .primaryKey (barePrimaryKey 1 "pk_users")
    j.same (some a) (some b) = .ok true ∧ ¬j.KeysMeet a b ∧
      ∃ f, compareSnapshots j .standard ⟨none, none, [a]⟩ ⟨none, none, [b]⟩ = .ok f ∧
        f.missingOf .primaryKey = [a] ∧ f.unexpectedOf .primaryKey = [b] := by
  intro j a b
  obtain ⟨hsame, apart⟩ := judge_same_and_not_keysMeet_iff.2 hidden_barePrimaryKeys
  exact ⟨hsame, apart, exists_findings_of_hidden hidden_barePrimaryKeys (by decide)⟩

end SchemaDelta

import SchemaDelta.Proofs.OneWay

/-!
# Standard forms of containers

The standard form of a container is found level by level: the name that is given for a level is
dropped when it is the default one, and put in the dialect's case when it is not. What is left is
trimmed, shown, and in that case already, so a second pass changes it only by dropping it. That
happens to a name that is not the default one as it is given, and is in the dialect's case. No
name of ASCII characters is such, and none at all where the dialect's case is not upper case.

## Main definitions

* `Container.Normal` — a container without blank names and without default ones.
* `Container.BecomesDefault` — a name that is the default one in the dialect's case only.
-/

namespace SchemaDelta

namespace Container

variable {d : Dialect} {c : Container} {name default : Option String} {n : String}

/-! ## One level -/

/-- The name has no blanks around it, and something between them. -/
def Shown (name : Option String) : Prop := ∀ n ∈ name, Text.trim n = n ∧ n ≠ ""

/-- The name of a level that goes by `default`, in standard form. -/
def level (d : Dialect) (default name : Option String) : Option String :=
  (if isDefaultName name default then none else name).map d.nameCase.apply

/-- A name that is not the default one as it is given, and is when put in the dialect's case. -/
def BecomesDefault (d : Dialect) (default name : Option String) : Prop :=
  ∃ n ∈ name, ∃ m ∈ default, Text.lower n ≠ Text.lower m ∧
    Text.lower (d.nameCase.apply n) = Text.lower m

theorem isDefaultName_eq_true_iff :
    isDefaultName name default = true ↔
      ∃ n ∈ name, ∃ m ∈ default, Text.lower n = Text.lower m := by
  cases name <;> cases default <;> simp [isDefaultName, Text.sameIgnoringCase]

theorem shown_trimName (name : Option String) : Shown (trimName name) := by
  intro n hn
  obtain ⟨hn, shown⟩ := Option.filter_eq_some_iff.1 hn
  obtain ⟨m, -, rfl⟩ := Option.map_eq_some_iff.1 hn
  exact ⟨Text.trim_trim m, by simpa using shown⟩

theorem Shown.trimName_eq (h : Shown name) : trimName name = name := by
  cases name with
  | none => rfl
  | some n =>
    obtain ⟨trimmed, shown⟩ := h n rfl
    simp [trimName, trimmed, shown]

theorem Shown.or {other : Option String} (h : Shown name) (h' : Shown other) :
    Shown (name.or other) := by
  cases name with
  | none => exact h'
  | some n => exact h

/-- What is left of a name at a level is shown as the name is. -/
theorem Shown.level (h : Shown name) : Shown (level d default name) := by
  intro m hm
  obtain ⟨n, kept, rfl⟩ := Option.map_eq_some_iff.1 hm
  obtain ⟨trimmed, shown⟩ : Text.trim n = n ∧ n ≠ "" := by
    split at kept
    · cases kept
    · exact h n kept
  exact ⟨by rw [NameCase.trim_apply, trimmed], mt NameCase.apply_eq_empty_iff.1 shown⟩

/-- What is left of a name at a level is the default name when the name becomes it. -/
theorem isDefaultName_level_iff :
    isDefaultName (level d default name) default = true ↔ BecomesDefault d default name := by
  cases given : isDefaultName name default with
  | true =>
    have dropped : level d default name = none := by simp [level, given]
    obtain ⟨n, hn, m, hm, same⟩ := isDefaultName_eq_true_iff.1 given
    rw [dropped]
    constructor
    · nofun
    · rintro ⟨n', hn', m', hm', apart, -⟩
      obtain rfl := Option.mem_unique hn hn'
      obtain rfl := Option.mem_unique hm hm'
      exact absurd same apart
  | false =>
    have kept : level d default name = name.map d.nameCase.apply := by simp [level, given]
    have apart : ∀ n ∈ name, ∀ m ∈ default, Text.lower n ≠ Text.lower m := by
      intro n hn m hm same
      have := isDefaultName_eq_true_iff.2 ⟨n, hn, m, hm, same⟩
      simp_all
    rw [kept, isDefaultName_eq_true_iff]
    constructor
    · rintro ⟨n', hn', m, hm, same⟩
      obtain ⟨n, hn, rfl⟩ := Option.map_eq_some_iff.1 hn'
      exact ⟨n, hn, m, hm, apart n hn m hm, same⟩
    · rintro ⟨n, hn, m, hm, -, same⟩
      exact ⟨_, Option.mem_map_of_mem _ hn, m, hm, same⟩

/-- A second pass changes what is left at a level only where it finds the default name. -/
theorem level_level_iff :
    level d default (level d default name) = level d default name ↔
      ¬BecomesDefault d default name := by
  have settled : (level d default name).map d.nameCase.apply = level d default name := by
    simp only [level, Option.map_map]
    congr 1
    exact funext d.nameCase.apply_apply
  rw [← isDefaultName_level_iff, Bool.not_eq_true]
  generalize level d default name = left at settled ⊢
  cases again : isDefaultName left default with
  | true =>
    obtain ⟨n, rfl, -⟩ := isDefaultName_eq_true_iff.1 again
    have dropped : level d default (some n) = none := by simp [level, again]
    simp [dropped]
  | false => simp [level, again, settled]

/-! ## Both levels -/

/-- The name given for the level of catalogs; without schemas the schema's stands in for it. -/
def givenCatalog (d : Dialect) (c : Container) : Option String :=
  if d.hasSchemas then trimName c.catalog else (trimName c.catalog).or (trimName c.schema)

/-- A name at a level that the dialect has becomes the default one of that level. -/
def HidesDefault (d : Dialect) (c : Container) : Prop :=
  d.hasCatalogs = true ∧ (BecomesDefault d d.defaultCatalog (givenCatalog d c) ∨
    d.hasSchemas = true ∧ BecomesDefault d d.defaultSchema (trimName c.schema))

/-- No name is blank, or the default one at a level that the dialect has. -/
structure Normal (d : Dialect) (c : Container) : Prop where
  shownCatalog : Shown c.catalog
  shownSchema : Shown c.schema
  catalog : d.hasCatalogs = true → isDefaultName c.catalog d.defaultCatalog = false
  schema : d.hasSchemas = true → isDefaultName c.schema d.defaultSchema = false

theorem shown_givenCatalog (d : Dialect) (c : Container) : Shown (givenCatalog d c) := by
  unfold givenCatalog
  split
  · exact shown_trimName _
  · exact (shown_trimName _).or (shown_trimName _)

theorem standardize_of_no_catalogs (h : d.hasCatalogs = false) :
    c.standardize d = ⟨none, none⟩ := by
  simp [standardize, h]

/-- The standard form, level by level. -/
theorem standardize_eq (h : d.hasCatalogs = true) :
    c.standardize d =
      ⟨level d d.defaultCatalog (givenCatalog d c),
        if d.hasSchemas then level d d.defaultSchema (trimName c.schema)
        else level d d.defaultCatalog (givenCatalog d c)⟩ := by
  cases hschemas : d.hasSchemas <;> simp [standardize, level, givenCatalog, h, hschemas]

theorem shown_standardize (d : Dialect) (c : Container) :
    Shown (c.standardize d).catalog ∧ Shown (c.standardize d).schema := by
  cases h : d.hasCatalogs with
  | false =>
    rw [standardize_of_no_catalogs h]
    exact ⟨nofun, nofun⟩
  | true =>
    rw [standardize_eq h]
    have catalog : Shown (level d d.defaultCatalog (givenCatalog d c)) :=
      (shown_givenCatalog d c).level
    refine ⟨catalog, ?_⟩
    dsimp only
    split
    · exact (shown_trimName _).level
    · exact catalog

/-- A second pass finds the names that the first one left. -/
theorem given_standardize (h : d.hasCatalogs = true) :
    givenCatalog d (c.standardize d) = (c.standardize d).catalog ∧
      trimName (c.standardize d).schema = (c.standardize d).schema := by
  obtain ⟨catalog, schema⟩ := shown_standardize d c
  refine ⟨?_, schema.trimName_eq⟩
  unfold givenCatalog
  rw [catalog.trimName_eq, schema.trimName_eq]
  split
  · rfl
  · next without =>
    rw [standardize_eq h, if_neg without]
    exact Option.or_self

theorem standardize_standardize_eq_iff :
    (c.standardize d).standardize d = c.standardize d ↔ ¬c.HidesDefault d := by
  unfold HidesDefault
  cases h : d.hasCatalogs with
  | false => simp [standardize_of_no_catalogs h]
  | true =>
    obtain ⟨catalog, schema⟩ := given_standardize (c := c) h
    rw [standardize_eq (c := c.standardize d) h, catalog, schema, standardize_eq (c := c) h]
    cases hschemas : d.hasSchemas <;> simp [level_level_iff]

theorem normal_standardize_iff : (c.standardize d).Normal d ↔ ¬c.HidesDefault d := by
  obtain ⟨shown, shown'⟩ := shown_standardize d c
  unfold HidesDefault
  cases h : d.hasCatalogs with
  | false =>
    rw [standardize_of_no_catalogs h] at shown shown' ⊢
    simpa using (⟨shown, shown', fun _ => rfl, fun _ => rfl⟩ : Normal d ⟨none, none⟩)
  | true =>
    have normal : (c.standardize d).Normal d ↔
        isDefaultName (c.standardize d).catalog d.defaultCatalog = false ∧
          (d.hasSchemas = true →
            isDefaultName (c.standardize d).schema d.defaultSchema = false) :=
      ⟨fun n => ⟨n.catalog h, n.schema⟩, fun n => ⟨shown, shown', fun _ => n.1, n.2⟩⟩
    rw [normal, standardize_eq h]
    cases hschemas : d.hasSchemas <;>
      simp [← isDefaultName_level_iff]

/-! ## Names that do not become the default one -/

theorem not_becomesDefault_of_case (h : d.nameCase ≠ .upper) :
    ¬BecomesDefault d default name := by
  rintro ⟨n, -, m, -, apart, same⟩
  exact apart (by rw [← same, NameCase.lower_apply_of_ne h])

theorem not_becomesDefault_of_ascii (h : AsciiName name) : ¬BecomesDefault d default name := by
  rintro ⟨n, hn, m, -, apart, same⟩
  exact apart (by rw [← same, NameCase.lower_apply _ (h n hn)])

theorem not_hidesDefault_of_case (h : d.nameCase ≠ .upper) : ¬c.HidesDefault d := by
  rintro ⟨-, becomes | ⟨-, becomes⟩⟩ <;> exact not_becomesDefault_of_case h becomes

theorem asciiName_trimName (h : AsciiName name) : AsciiName (trimName name) := by
  intro n hn
  obtain ⟨m, hm, rfl⟩ := Option.map_eq_some_iff.1 (Option.filter_eq_some_iff.1 hn).1
  exact Text.ascii_trim (h m hm)

theorem not_hidesDefault_of_ascii (hcatalog : AsciiName c.catalog) (hschema : AsciiName c.schema) :
    ¬c.HidesDefault d := by
  have catalog := asciiName_trimName hcatalog
  have schema := asciiName_trimName hschema
  have given : AsciiName (givenCatalog d c) := by
    unfold givenCatalog
    split
    · exact catalog
    · intro n hn
      exact (Option.or_eq_some_iff.1 hn).elim (catalog n) fun h => schema n h.2
  rintro ⟨-, becomes | ⟨-, becomes⟩⟩
  · exact not_becomesDefault_of_ascii given becomes
  · exact not_becomesDefault_of_ascii schema becomes

/-- The names of a standard form are trimmed and not blank. It is its own standard form, and has no
default name at a level that the dialect has, exactly when no name of the container becomes the
default one in the dialect's case, which takes upper case and a name beyond ASCII. -/
theorem normal_standardize (d : Dialect) (c : Container) :
    let s := c.standardize d
    (Shown s.catalog ∧ Shown s.schema) ∧
      (s.standardize d = s ↔ ¬c.HidesDefault d) ∧ (s.Normal d ↔ ¬c.HidesDefault d) ∧
      (c.HidesDefault d →
        d.nameCase = .upper ∧ ¬(AsciiName c.catalog ∧ AsciiName c.schema)) := by
  refine ⟨shown_standardize d c, standardize_standardize_eq_iff, normal_standardize_iff, ?_⟩
  intro hides
  constructor
  · by_contra other
    exact not_hidesDefault_of_case other hides
  · rintro ⟨catalog, schema⟩
    exact not_hidesDefault_of_ascii catalog schema hides

/-- A dotless `ı` is not an `i`, but is its own case's `I`: a second pass drops the schema that the
first one made the default one. -/
theorem dotless_schema_standardized_twice :
    let s := (Container.mk none (some "publ\u0131c")).standardize .h2
    s = ⟨none, some "PUBLIC"⟩ ∧ s.standardize .h2 = ⟨none, none⟩ ∧
      isDefaultName s.schema Dialect.h2.defaultSchema = true := by
  decide +kernel

end Container

end SchemaDelta

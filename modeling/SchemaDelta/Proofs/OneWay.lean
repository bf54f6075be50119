import SchemaDelta.Config
import SchemaDelta.Proofs.Classes

/-!
# Catalogs that are the same one way only

Whether two catalogs are the same may depend on which of them is asked about the other. A
catalog without a name in standard form is the same as those that have none either, and
aliases are not tried for it; a catalog with a name is also the same as what an alias leads
to, and an alias with a blank side leads to no name at all. This is the only way in which the
order counts: of two catalogs that both have a name, either is led to what the other is.

## Main definitions

* `Rule.Catalog.OneWay` — a catalog without a name, and one whose name an alias takes away.
-/

namespace SchemaDelta

variable {d : Dialect} {p : Policy}

/-! ## Texts -/

namespace Text

theorem lower_eq_empty_iff {s : String} : lower s = "" ↔ s = "" := by
  rw [lower, lowerChars, String.ofList_eq_empty_iff, ← String.toList_eq_nil_iff]
  cases s.toList with
  | nil => simp [lowerFrom]
  | cons c cs => simp [lowerFrom_cons, imageAt_ne_nil]

theorem upper_eq_empty_iff {s : String} : upper s = "" ↔ s = "" := by
  rw [upper, upperChars, String.ofList_eq_empty_iff, ← String.toList_eq_nil_iff]
  cases s.toList with
  | nil => simp
  | cons c cs => simp [upperChar_ne_nil]

end Text

namespace NameCase

theorem trim_apply (c : NameCase) (s : String) :
    Text.trim (c.apply s) = c.apply (Text.trim s) := by
  cases c with
  | asWritten => rfl
  | upper => exact Text.trim_upper s
  | lower => exact Text.trim_lower s

theorem apply_eq_empty_iff {c : NameCase} {s : String} : c.apply s = "" ↔ s = "" := by
  cases c with
  | asWritten => rfl
  | upper => exact Text.upper_eq_empty_iff
  | lower => exact Text.lower_eq_empty_iff

theorem lower_apply (c : NameCase) {s : String} (h : Text.Ascii s) :
    Text.lower (c.apply s) = Text.lower s := by
  cases c with
  | asWritten => rfl
  | upper => exact Text.lower_upper h
  | lower => exact Text.lower_lower s

end NameCase

namespace Rule.Catalog

variable {name first second : Option String} {m n : String}

/-! ## Names -/

/-- A name without what does not count where aliases are tried: blanks around it, and case. -/
def plainKey (name : Option String) : String := Text.lower ((name.map Text.trim).getD "")

theorem trimmedSame_iff {a b : Option String} :
    trimmedSame a b = true ↔ plainKey a = plainKey b := beq_iff_eq

theorem plainKey_none : plainKey none = "" := rfl

theorem presentAndSame_iff {a : Option String} :
    presentAndSame a (some n) = true ↔ ∃ m, a = some m ∧ Text.lower m = Text.lower n := by
  cases a <;> simp [presentAndSame, Text.sameIgnoringCase]

theorem plainKey_eq_of_presentAndSame {a : Option String} (h : presentAndSame a (some n)) :
    plainKey a = plainKey (some n) := by
  obtain ⟨m, rfl, same⟩ := presentAndSame_iff.1 h
  change Text.lower (Text.trim m) = Text.lower (Text.trim n)
  rw [← Text.trim_lower, ← Text.trim_lower, same]

theorem plainKey_eq_of_containersAgree {a b : Option String} (h : containersAgree d a b) :
    plainKey a = plainKey b := by
  unfold containersAgree at h
  cases hcase : d.nameCase == .asWritten with
  | true =>
    simp only [hcase, if_true, beq_iff_eq] at h
    exact congrArg Text.lower h
  | false =>
    simp only [hcase, Bool.false_eq_true, if_false] at h
    exact beq_iff_eq.1 h

/-! ## Standard forms -/

theorem standardName_eq (hd : d.hasCatalogs = true) : standardName d name =
    (if Container.isDefaultName (Container.trimName name) d.defaultCatalog then none
      else Container.trimName name).map d.nameCase.apply := by
  have stated : Container.trimName none = none := rfl
  simp [standardName, Container.standardize, hd, stated]

/-- A name has no standard form when it is blank or the default one. -/
theorem standardName_eq_none_iff (hd : d.hasCatalogs = true) :
    standardName d name = none ↔
      plainKey name = "" ∨ ∃ default ∈ d.defaultCatalog, plainKey name = Text.lower default := by
  rw [standardName_eq hd, Option.map_eq_none_iff]
  cases name with
  | none =>
    have stated : Container.trimName none = none := rfl
    simp [stated, plainKey_none]
  | some n =>
    have key : plainKey (some n) = Text.lower (Text.trim n) := rfl
    rw [key, Text.lower_eq_empty_iff, Container.trimName, Option.map_some]
    by_cases blank : Text.trim n = ""
    · simp [blank]
    · rw [Option.filter_some_pos (by simp [blank])]
      cases d.defaultCatalog <;> simp [Container.isDefaultName, Text.sameIgnoringCase, blank]

theorem standardName_eq_none_of_containersAgree {a b : Option String} (hd : d.hasCatalogs = true)
    (h : containersAgree d a b) : standardName d a = none ↔ standardName d b = none := by
  rw [standardName_eq_none_iff hd, standardName_eq_none_iff hd, plainKey_eq_of_containersAgree h]

theorem hasCatalogs_of_standardName (h : standardName d name = some n) :
    d.hasCatalogs = true := by
  by_contra without
  rw [standardName, Container.standardize, if_pos (by simpa using without)] at h
  cases h

/-- A standard form is a name that was given, without the blanks around it and in the dialect's
spelling. -/
theorem exists_of_standardName (h : standardName d name = some n) :
    ∃ m, name = some m ∧ Text.trim m ≠ "" ∧ n = d.nameCase.apply (Text.trim m) := by
  rw [standardName_eq (hasCatalogs_of_standardName h)] at h
  obtain ⟨shown, kept, rfl⟩ := Option.map_eq_some_iff.1 h
  have trimmed : Container.trimName name = some shown := by
    split at kept
    · cases kept
    · exact kept
  obtain ⟨written, present⟩ := Option.filter_eq_some_iff.1 trimmed
  obtain ⟨m, rfl, rfl⟩ := Option.map_eq_some_iff.1 written
  exact ⟨m, rfl, bne_iff_ne.1 present, rfl⟩

/-- A standard form is not empty and has no blanks around it. -/
theorem plainKey_of_standardName (h : standardName d name = some n) :
    plainKey (some n) = Text.lower n ∧ Text.lower n ≠ "" := by
  obtain ⟨m, -, shown, rfl⟩ := exists_of_standardName h
  constructor
  · change Text.lower (Text.trim _) = _
    rw [NameCase.trim_apply, Text.trim_trim]
  · rw [Ne, Text.lower_eq_empty_iff, NameCase.apply_eq_empty_iff]
    exact shown

/-! ## Aliases -/

/-- A name that is one of a pair is exchanged for the other; any other name stays. -/
theorem exchange_cases (first second name : Option String) :
    (presentAndSame first name ∧ exchange first second name = second) ∨
      (presentAndSame second name ∧ exchange first second name = first) ∨
      (¬presentAndSame first name ∧ ¬presentAndSame second name ∧
        exchange first second name = name) := by
  unfold exchange
  grind

theorem exchange_none (first second : Option String) : exchange first second none = none := by
  cases first <;> cases second <;> rfl

/-- What an alias leads a name to. -/
def exchangeBy (d : Dialect) (a : Alias) (name : Option String) : Option String :=
  exchange (aliasName d a.comparison) (aliasName d a.reference) name

theorem aliased_iff {this that : Option String} {a : Alias} : aliased d this that a = true ↔
    plainKey (exchangeBy d a this) = plainKey that ∨
      plainKey (exchangeBy d a this) = plainKey (exchangeBy d a that) := by
  simp only [aliased, Bool.or_eq_true, trimmedSame_iff, exchangeBy]

/-- When an alias leads one name to another, it leads the other back, or both to one name. -/
theorem aliased_symm {a : Alias} (hm : plainKey (some m) = Text.lower m)
    (hn : plainKey (some n) = Text.lower n) (h : aliased d (some m) (some n) a) :
    aliased d (some n) (some m) a := by
  rw [aliased_iff] at h ⊢
  rcases h with one | both
  swap
  · exact .inr both.symm
  unfold exchangeBy at one ⊢
  rcases exchange_cases (aliasName d a.comparison) (aliasName d a.reference) (some m) with
    ⟨named, led⟩ | ⟨named, led⟩ | ⟨apart, apart', stays⟩
  · rw [led] at one ⊢
    rcases exchange_cases (aliasName d a.comparison) (aliasName d a.reference) (some n) with
      ⟨-, led'⟩ | ⟨-, led'⟩ | ⟨-, -, stays'⟩
    · exact .inr (by rw [led'])
    · exact .inl (by rw [led', plainKey_eq_of_presentAndSame named])
    · exact .inr (by rw [stays', one])
  · rw [led] at one ⊢
    rcases exchange_cases (aliasName d a.comparison) (aliasName d a.reference) (some n) with
      ⟨-, led'⟩ | ⟨-, led'⟩ | ⟨-, -, stays'⟩
    · exact .inl (by rw [led', plainKey_eq_of_presentAndSame named])
    · exact .inr (by rw [led'])
    · exact .inr (by rw [stays', one])
  · -- the names are equal up to case, so that the alias does not lead the other away either
    rw [stays, hm, hn] at one
    rw [presentAndSame_iff, one, ← presentAndSame_iff] at apart apart'
    refine .inl ?_
    rw [exchange, if_neg apart, if_neg apart', hn, hm, one]

/-! ## Catalogs -/

/-- The first catalog has no name in standard form, and an alias takes away the name that the
second has. -/
def OneWay (d : Dialect) (p : Policy) (a b : SchemaDelta.Catalog) : Prop :=
  standardName d (effectiveName p a) = none ∧
    ∃ n, standardName d (effectiveName p b) = some n ∧
      ∃ x ∈ p.aliases, plainKey (exchangeBy d x (some n)) = ""

variable {a b : SchemaDelta.Catalog}

/-- A catalog with a name is the same as one without when an alias takes the name away. -/
theorem sameCatalog_of_unnamed (ha : standardName d (effectiveName p a) = none)
    (hb : standardName d (effectiveName p b) = some n) :
    sameCatalog d p a b = false ∧
      (sameCatalog d p b a = true ↔
        ∃ x ∈ p.aliases, plainKey (exchangeBy d x (some n)) = "") := by
  have hd := hasCatalogs_of_standardName hb
  have apart : containersAgree d (effectiveName p b) (effectiveName p a) = false := by
    rw [Bool.eq_false_iff]
    intro agree
    have := (standardName_eq_none_of_containersAgree hd agree).2 ha
    rw [hb] at this
    cases this
  constructor
  · simp [sameCatalog, hd, ha, hb]
  · simp only [sameCatalog, hd, ha, hb, apart, Bool.not_true, Bool.false_eq_true, if_false,
      Bool.false_or, List.any_eq_true, aliased_iff, exchangeBy, exchange_none, plainKey_none,
      or_self]

theorem sameCatalog_symm_of_named (ha : standardName d (effectiveName p a) = some m)
    (hb : standardName d (effectiveName p b) = some n) (h : sameCatalog d p a b) :
    sameCatalog d p b a := by
  have hd := hasCatalogs_of_standardName ha
  have keys {name shown} (h : standardName d name = some shown) :=
    (plainKey_of_standardName h).1
  simp only [sameCatalog, hd, ha, hb, Bool.not_true, Bool.false_eq_true, if_false,
    Bool.or_eq_true, List.any_eq_true] at h ⊢
  rw [containersAgree_comm]
  rcases h with agree | ⟨x, hx, led⟩
  · exact .inl agree
  · exact .inr ⟨x, hx, aliased_symm (keys ha) (keys hb) led⟩

theorem sameCatalog_of_oneWay (h : OneWay d p a b) :
    sameCatalog d p a b = false ∧ sameCatalog d p b a = true := by
  obtain ⟨ha, n, hb, taken⟩ := h
  have asked := sameCatalog_of_unnamed ha hb
  exact ⟨asked.1, asked.2.2 taken⟩

/-- The order of two catalogs counts only when the one has no name and an alias takes away that of
the other. -/
theorem sameCatalog_comm_iff :
    sameCatalog d p a b = sameCatalog d p b a ↔ ¬OneWay d p a b ∧ ¬OneWay d p b a := by
  constructor
  · intro same
    constructor
    · intro oneWay
      simp [sameCatalog_of_oneWay oneWay] at same
    · intro oneWay
      simp [sameCatalog_of_oneWay oneWay] at same
  · rintro ⟨hab, hba⟩
    cases ha : standardName d (effectiveName p a) with
    | none =>
      cases hb : standardName d (effectiveName p b) with
      | none => simp [sameCatalog, ha, hb]
      | some n =>
        obtain ⟨apart, led⟩ := sameCatalog_of_unnamed ha hb
        rw [apart, eq_comm, Bool.eq_false_iff]
        exact fun same => hab ⟨ha, n, hb, led.1 same⟩
    | some m =>
      cases hb : standardName d (effectiveName p b) with
      | none =>
        obtain ⟨apart, led⟩ := sameCatalog_of_unnamed hb ha
        rw [apart, Bool.eq_false_iff]
        exact fun same => hba ⟨hb, m, ha, led.1 same⟩
      | some n =>
        rw [Bool.eq_iff_iff]
        exact ⟨sameCatalog_symm_of_named ha hb, sameCatalog_symm_of_named hb ha⟩

theorem not_oneWay_self : ¬OneWay d p a a := by
  rintro ⟨unnamed, n, named, -⟩
  rw [unnamed] at named
  cases named

theorem sameCatalog_self : sameCatalog d p a a = true := by
  have agree : containersAgree d (effectiveName p a) (effectiveName p a) = true :=
    containersAgree_iff.2 rfl
  simp only [sameCatalog, agree]
  split
  · rfl
  · split
    · next unnamed => rw [unnamed, Option.isNone_none]
    · rfl

end Rule.Catalog

open Rulebook Rule.Catalog

/-- The judge tells of two catalogs whether they are the same by their rule. -/
theorem judge_same_catalogs (d : Dialect) (p : Policy) (a b : Catalog) :
    ((builtin d).judge d p).same (some (.catalog a)) (some (.catalog b)) =
      .ok (sameCatalog d p a b) := by
  have answer : ((builtin d).judge d p).same (some (.catalog a)) (some (.catalog b)) =
      .ok (decide (a = b) || sameCatalog d p a b) := same_catalog a b
  rw [answer]
  by_cases one : a = b
  · subst one
    rw [sameCatalog_self, Bool.or_true]
  · simp [one]

/-- It does not matter which of two catalogs is asked about the other unless one of them has no name
in standard form and an alias takes away the name of the other. Such a pair is the same when the
catalog with the name is asked, and not when the other is. -/
theorem catalogs_same_comm_iff (d : Dialect) (p : Policy) (a b : Catalog) :
    let j := (builtin d).judge d p
    (j.same (some (.catalog a)) (some (.catalog b)) =
        j.same (some (.catalog b)) (some (.catalog a)) ↔ ¬OneWay d p a b ∧ ¬OneWay d p b a) ∧
      (OneWay d p a b ↔ j.same (some (.catalog a)) (some (.catalog b)) = .ok false ∧
        j.same (some (.catalog b)) (some (.catalog a)) = .ok true) := by
  intro j
  have answer (a b : Catalog) : j.same (some (.catalog a)) (some (.catalog b)) =
      .ok (decide (a = b) || sameCatalog d p a b) := same_catalog a b
  rw [answer, answer]
  simp only [Except.ok.injEq]
  by_cases one : a = b
  · subst one
    simp [not_oneWay_self]
  · simp only [one, Ne.symm one, decide_false, Bool.false_or]
    refine ⟨sameCatalog_comm_iff, sameCatalog_of_oneWay, ?_⟩
    rintro ⟨apart, same⟩
    by_contra not
    by_cases back : OneWay d p b a
    · have := (sameCatalog_of_oneWay back).1
      rw [same] at this
      cases this
    · have := sameCatalog_comm_iff.2 ⟨not, back⟩
      rw [apart, same] at this
      cases this

/-- A catalog of which no more is known than its name and whether it is the default one. -/
def bareCatalog (origin : Nat) (name : String) (isDefault : Bool) : Object :=
  .catalog ⟨.entry origin .catalog 0, some name, isDefault, []⟩

theorem sorted_suppressed_nil : Keyed.Sorted ([] : List (String × List String)) := .nil

/-- A configuration by which the catalog `shop` stands for one without a name. -/
def namelessShop : Config :=
  { dialect := .preset "postgres", sorted := sorted_suppressed_nil, aliases := [⟨"", "shop"⟩] }

/-- Under a configured alias with an empty side a catalog is the same as the default one, and the
default one is not the same as this catalog. -/
theorem default_catalog_same_one_way :
    ∃ d p, namelessShop.dialect? = .ok d ∧ namelessShop.policy? = .ok p ∧
      let j := (builtin d).judge d p
      j.same (some (bareCatalog 0 "main" true)) (some (bareCatalog 1 "shop" false)) = .ok false ∧
      j.same (some (bareCatalog 1 "shop" false)) (some (bareCatalog 0 "main" true)) = .ok true := by
  have dialect : namelessShop.dialect? = .ok .postgres := by decide +kernel
  refine ⟨_, _, dialect, rfl, ?_, ?_⟩
  · rw [judge_same]
    decide +kernel
  · rw [judge_same]
    decide +kernel

end SchemaDelta

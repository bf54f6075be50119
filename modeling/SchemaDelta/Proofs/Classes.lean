import SchemaDelta.Proofs.BothWays
import SchemaDelta.Proofs.Symmetry

/-!
# Classes of schemas, tables and columns

Three tests tell whether schemas are the same: their names agree, or they do once the default
name stands in for a missing one, or their standard forms do. Without aliases, and where the
dialect has both levels of containers, the last test passes whenever one of the others does:
the standard form is made from what counts of a name, and leaves out the default one. So being
the same is having equal marks, for schemas, and for the tables and columns below them.

## Main definitions

* `Object.AsciiNamed` — the names that identify a schema, a table or a column are ASCII.
* `Identity.mark?` — what decides whether a schema, a table or a column is the same as another.
-/

namespace SchemaDelta

variable {d : Dialect} {p : Policy}

/-! ## Texts -/

namespace Text

theorem ascii_trim {s : String} (h : Ascii s) : Ascii (trim s) := by
  intro c hc
  rw [trim, String.toList_ofList, trimChars_eq] at hc
  exact h c ((List.dropWhile_sublist _).subset ((List.rdropWhile_prefix ..).sublist.subset hc))

end Text

/-! ## Schemas -/

namespace Rule

theorem containerKey_none : containerKey d none = "" := by
  unfold containerKey
  cases d.nameCase <;> rfl

theorem containerKey_blank {n : String} (h : Text.trim n = "") : containerKey d (some n) = "" := by
  rw [← containerKey_none (d := d)]
  simp [containerKey, h]

theorem lower_trim_eq {m n : String} (h : containerKey d (some m) = containerKey d (some n)) :
    Text.lower (Text.trim m) = Text.lower (Text.trim n) := by
  unfold containerKey at h
  cases hcase : d.nameCase == .asWritten with
  | true =>
    rw [hcase] at h
    exact congrArg Text.lower h
  | false =>
    rw [hcase] at h
    exact h

/-- Trimming a name and putting it in the dialect's case changes nothing that counts. -/
theorem containerKey_spelled {n : String} (ascii : Text.Ascii n) :
    containerKey d (some (d.nameCase.apply (Text.trim n))) = containerKey d (some n) := by
  have ascii := Text.ascii_trim ascii
  unfold containerKey
  cases d.nameCase with
  | asWritten => exact Text.trim_trim n
  | upper =>
    change Text.lower (Text.trim (Text.upper _)) = Text.lower (Text.trim n)
    rw [← Text.trim_lower, Text.lower_upper ascii, Text.trim_lower, Text.trim_trim]
  | lower =>
    change Text.lower (Text.trim (Text.lower _)) = Text.lower (Text.trim n)
    rw [← Text.trim_lower, Text.lower_lower, Text.trim_lower, Text.trim_trim]

namespace Schema

/-- What counts of the standard form of a schema's name. -/
def standardKey (d : Dialect) (s : SchemaDelta.Schema) : String :=
  containerKey d (standardName d s)

/-- Up to blanks and case the name is the default one. -/
def IsDefault (d : Dialect) (n : String) : Prop :=
  ∃ default ∈ d.defaultSchema, Text.lower (Text.trim n) = Text.lower default

section

variable (hcatalogs : d.hasCatalogs = true) (hschemas : d.hasSchemas = true)
include hcatalogs hschemas

theorem standardName_eq (s : SchemaDelta.Schema) :
    standardName d s = ((Container.trimName s.name).filter fun n =>
      !Container.isDefaultName (some n) d.defaultSchema).map d.nameCase.apply := by
  simp only [standardName, Container.standardize, hcatalogs, hschemas, Bool.not_true,
    Bool.false_eq_true, if_false]
  congr 1
  cases Container.trimName s.name with
  | none => rfl
  | some n =>
    cases hn : Container.isDefaultName (some n) d.defaultSchema <;> simp [Option.filter, hn]

theorem standardKey_of_unnamed {s : SchemaDelta.Schema} (h : s.name = none) :
    standardKey d s = "" := by
  rw [standardKey, standardName_eq hcatalogs hschemas, h]
  exact containerKey_none

theorem standardKey_of_isDefault {s : SchemaDelta.Schema} {n : String} (hname : s.name = some n)
    (h : IsDefault d n) : standardKey d s = "" := by
  obtain ⟨default, hdefault, same⟩ := h
  have named : Container.isDefaultName (some (Text.trim n)) d.defaultSchema = true := by
    rw [Option.mem_def.1 hdefault]
    exact beq_iff_eq.2 same
  rw [standardKey, standardName_eq hcatalogs hschemas, hname, Container.trimName, Option.map_some]
  by_cases blank : Text.trim n = ""
  · rw [Option.filter_some_neg (by simp [blank])]
    exact containerKey_none
  · rw [Option.filter_some_pos (by simp [blank]), Option.filter_some_neg (by simp [named])]
    exact containerKey_none

/-- The standard form of another name goes by what counts of the name. -/
theorem standardKey_of_not_isDefault {s : SchemaDelta.Schema} {n : String}
    (hname : s.name = some n) (ascii : Text.Ascii n) (h : ¬IsDefault d n) :
    standardKey d s = containerKey d (some n) := by
  have unnamed : Container.isDefaultName (some (Text.trim n)) d.defaultSchema = false := by
    rw [Bool.eq_false_iff]
    intro named
    cases hdefault : d.defaultSchema with
    | none => simp [hdefault, Container.isDefaultName] at named
    | some default =>
      rw [hdefault] at named
      exact h ⟨default, hdefault, beq_iff_eq.1 named⟩
  rw [standardKey, standardName_eq hcatalogs hschemas, hname, Container.trimName, Option.map_some]
  by_cases blank : Text.trim n = ""
  · rw [Option.filter_some_neg (by simp [blank]), containerKey_blank blank]
    exact containerKey_none
  · rw [Option.filter_some_pos (by simp [blank]), Option.filter_some_pos (by simp [unnamed])]
    exact containerKey_spelled ascii

variable {a b : SchemaDelta.Schema} (ha : AsciiName a.name) (hb : AsciiName b.name)
include ha hb

theorem standardKey_eq_of_containerKey_eq (h : containerKey d a.name = containerKey d b.name) :
    standardKey d a = standardKey d b := by
  have unnamed {s t : SchemaDelta.Schema} (hs : s.name = none) (ht : AsciiName t.name)
      (h : containerKey d none = containerKey d t.name) : standardKey d s = standardKey d t := by
    rw [standardKey_of_unnamed hcatalogs hschemas hs]
    cases hname : t.name with
    | none => exact (standardKey_of_unnamed hcatalogs hschemas hname).symm
    | some n =>
      by_cases default : IsDefault d n
      · exact (standardKey_of_isDefault hcatalogs hschemas hname default).symm
      · rw [standardKey_of_not_isDefault hcatalogs hschemas hname (ht n hname) default, ← hname, ← h,
          containerKey_none]
  cases hm : a.name with
  | none => exact unnamed hm hb (hm ▸ h)
  | some m =>
    cases hn : b.name with
    | none => exact (unnamed hn ha (hn ▸ h).symm).symm
    | some n =>
      rw [hm, hn] at h
      have same := lower_trim_eq h
      by_cases default : IsDefault d m
      · have default' : IsDefault d n := by
          rwa [IsDefault, ← same]
        rw [standardKey_of_isDefault hcatalogs hschemas hm default,
          standardKey_of_isDefault hcatalogs hschemas hn default']
      · have default' : ¬IsDefault d n := by
          rwa [IsDefault, ← same]
        rw [standardKey_of_not_isDefault hcatalogs hschemas hm (ha m hm) default,
          standardKey_of_not_isDefault hcatalogs hschemas hn (hb n hn) default', h]

variable (trimmed : ∀ n ∈ d.defaultSchema, Text.trim n = n)
include trimmed

/-- Where the default name stands in for a missing one, the standard form leaves it out. -/
theorem standardKey_eq_of_orDefault
    (h : containerKey d (a.name.or d.defaultSchema) = containerKey d (b.name.or d.defaultSchema)) :
    standardKey d a = standardKey d b := by
  have unnamed {s t : SchemaDelta.Schema} {n : String} (hs : s.name = none) (ht : t.name = some n)
      {default : String} (hdefault : d.defaultSchema = some default)
      (h : containerKey d (some n) = containerKey d (some default)) :
      standardKey d t = standardKey d s := by
    have same := lower_trim_eq h
    rw [trimmed default hdefault] at same
    rw [standardKey_of_unnamed hcatalogs hschemas hs]
    exact standardKey_of_isDefault hcatalogs hschemas ht ⟨default, hdefault, same⟩
  cases hdefault : d.defaultSchema with
  | none =>
    rw [hdefault, Option.or_none, Option.or_none] at h
    exact standardKey_eq_of_containerKey_eq hcatalogs hschemas ha hb h
  | some default =>
    cases hm : a.name with
    | none =>
      cases hn : b.name with
      | none => exact standardKey_eq_of_containerKey_eq hcatalogs hschemas ha hb (by rw [hm, hn])
      | some n =>
        rw [hm, hn, hdefault] at h
        exact (unnamed hm hn hdefault h.symm).symm
    | some m =>
      cases hn : b.name with
      | none =>
        rw [hm, hn, hdefault] at h
        exact unnamed hn hm hdefault h
      | some n =>
        rw [hm, hn] at h
        exact standardKey_eq_of_containerKey_eq hcatalogs hschemas ha hb (by rw [hm, hn]; exact h)

/-- Without aliases the standard forms alone decide. -/
theorem sameSchema_iff (hp : p.aliases = []) :
    sameSchema d p a b = true ↔ standardKey d a = standardKey d b := by
  have named (s : SchemaDelta.Schema) : namespaceName d s = s.name := by
    simp [namespaceName, hschemas]
  have orDefault (name : Option String) : nameOrDefault d name = name.or d.defaultSchema := by
    simp [nameOrDefault, hschemas]
  simp only [sameSchema, named, orDefault, hp, List.any_nil, Bool.or_false, Bool.or_eq_true,
    containersAgree_iff]
  constructor
  · rintro ((names | names) | standard)
    · exact standardKey_eq_of_containerKey_eq hcatalogs hschemas ha hb names
    · exact standardKey_eq_of_orDefault hcatalogs hschemas ha hb trimmed names
    · exact standard
  · exact .inr

end

end Schema

end Rule

/-! ## Schemas, tables and columns -/

/-- The name of the schema is ASCII. -/
def Schema.AsciiNamed (s : Schema) : Prop := AsciiName s.name

/-- The names of the table and of its schema are ASCII. -/
def Table.AsciiNamed (t : Table) : Prop := AsciiName t.name ∧ ∀ s ∈ t.schema, s.AsciiNamed

/-- The names of the column, of its table and of the table's schema are ASCII. -/
def Column.AsciiNamed (c : Column) : Prop := AsciiName c.name ∧ ∀ t ∈ c.relation, t.AsciiNamed

theorem Column.AsciiNamed.wellNamed {c : Column} (h : c.AsciiNamed) :
    Identity.WellNamed (.column c) := by
  refine ⟨h.1, ?_⟩
  intro n hn
  obtain ⟨t, ht, hn⟩ := Option.bind_eq_some_iff.1 hn
  exact (h.2 t ht).1 n hn

/-- The names that identify a schema, a table or a column are ASCII. -/
def Object.AsciiNamed : Object → Prop
  | .schema s => s.AsciiNamed
  | .table t => t.AsciiNamed
  | .column c => c.AsciiNamed
  | _ => True

namespace Identity

/-- What decides whether a schema, a table or a column is the same as another. -/
inductive Mark where
  | schema (standard : String)
  | table (name schema : Option String)
  | column (name : Option String) (relation : Option Mark) (computed descending : Bool)

/-- A name as names are compared. -/
def nameMark (d : Dialect) (name : Option String) : Option String :=
  name.map fun n => if d.caseSensitive then n else Text.lower (d.correctName n)

def tableMark (d : Dialect) (t : Table) : Mark :=
  .table (nameMark d t.name) (t.schema.map (Rule.Schema.standardKey d))

/-- The mark of a schema, a table or a column. -/
def mark? (d : Dialect) : Object → Option Mark
  | .schema s => some (.schema (Rule.Schema.standardKey d s))
  | .table t => some (tableMark d t)
  | .column c =>
    some (.column (nameMark d c.name) (c.relation.map (tableMark d)) c.isComputed c.isDescending)
  | _ => none

theorem namesMatch_iff {a b : Object} :
    Rule.namesMatch d a b = true ↔ nameMark d a.name = nameMark d b.name := by
  unfold Rule.namesMatch nameMark
  cases a.name <;> cases b.name <;>
    simp [Criterion.namesAgree, Dialect.namesEqual, Dialect.correctName, Text.sameIgnoringCase]
  split <;> simp

/-- Links are the same when the marks of what they lead to are equal. -/
theorem optional_iff {α β : Type} [DecidableEq α] {alike : α → α → Bool} {mark : α → β}
    {a b : Option α} (h : ∀ x ∈ a, ∀ y ∈ b, alike x y = true ↔ mark x = mark y) :
    optional alike a b = true ↔ a.map mark = b.map mark := by
  cases a with
  | none => cases b <;> simp [optional]
  | some x =>
    cases b with
    | none => simp [optional]
    | some y =>
      rw [optional_some, h x rfl y rfl]
      constructor
      · rintro (rfl | same)
        · rfl
        · exact congrArg some same
      · exact fun same => .inr (Option.some.inj same)

/-- The dialects and policies under which the classes are those of equal marks. -/
structure Plain (d : Dialect) (p : Policy) : Prop where
  hasCatalogs : d.hasCatalogs = true
  hasSchemas : d.hasSchemas = true
  trimmed : ∀ n ∈ d.defaultSchema, Text.trim n = n
  aliases : p.aliases = []
  includeCatalog : p.includeCatalog = false

namespace Plain

variable (plain : Plain d p)
include plain

theorem schemasAlike_iff {a b : Schema} (ha : a.AsciiNamed) (hb : b.AsciiNamed) :
    schemasAlike d p a b = true ↔ Rule.Schema.standardKey d a = Rule.Schema.standardKey d b := by
  rw [schemasAlike, plain.includeCatalog, Bool.not_false, Bool.true_or, Bool.true_and]
  exact Rule.Schema.sameSchema_iff plain.hasCatalogs plain.hasSchemas ha hb plain.trimmed
    plain.aliases

theorem tablesAlike_iff {a b : Table} (ha : a.AsciiNamed) (hb : b.AsciiNamed) :
    tablesAlike d p a b = true ↔ tableMark d a = tableMark d b := by
  have schemas : schemas d p a.schema b.schema = true ↔ _ :=
    optional_iff fun s hs t ht => plain.schemasAlike_iff (ha.2 s hs) (hb.2 t ht)
  rw [tablesAlike, Bool.and_eq_true, namesMatch_iff, schemas, tableMark, tableMark, Mark.table.injEq]
  rfl

theorem columnsAlike_iff {a b : Column} (ha : a.AsciiNamed) (hb : b.AsciiNamed) :
    columnsAlike d p a b = true ↔ mark? d (.column a) = mark? d (.column b) := by
  have relations : tables d p a.relation b.relation = true ↔ _ :=
    optional_iff fun t ht u hu => plain.tablesAlike_iff (ha.2 t ht) (hb.2 u hu)
  rw [columnsAlike, Bool.and_eq_true, Bool.and_eq_true, Bool.and_eq_true, namesMatch_iff, relations,
    beq_iff_eq, beq_iff_eq, mark?, mark?, Option.some.injEq, Mark.column.injEq, and_assoc]
  rfl

/-- A schema, a table or a column is the same as what has an equal mark. -/
theorem same_iff {a b : Object} (ha : a.AsciiNamed) (hb : b.AsciiNamed)
    (hkind : a.kind ∈ [Kind.schema, .table, .column]) :
    same d p a b = true ↔ mark? d a = mark? d b := by
  have marks : alike d p a b = true ↔ mark? d a = mark? d b := by
    cases a <;> cases b
    case schema.schema a b => simpa [alike, mark?] using plain.schemasAlike_iff ha hb
    case table.table a b => simpa [alike, mark?] using plain.tablesAlike_iff ha hb
    case column.column a b => exact plain.columnsAlike_iff ha hb
    all_goals simp_all [alike, mark?, tableMark, Object.kind]
  rw [same, Bool.or_eq_true, decide_eq_true_iff, marks]
  constructor
  · rintro (rfl | same)
    · rfl
    · exact same
  · exact .inr

/-- Keys never keep apart what has equal marks. -/
theorem joins_iff {a b : Object} (ha : a.AsciiNamed) (hb : b.AsciiNamed)
    (hkind : a.kind ∈ [Kind.schema, .table, .column]) :
    ((Rulebook.builtin d).judge d p).Joins a b ↔ mark? d a = mark? d b := by
  rw [← plain.same_iff ha hb hkind, Judge.Joins, Rulebook.judge_same, Except.ok.injEq,
    Rulebook.judge_keysMeet_iff, and_iff_right_iff_imp]
  intro hsame
  rcases Bool.or_eq_true_iff.1 hsame with equal | h
  · rw [of_decide_eq_true equal]
    exact meet_self _
  · cases a <;> cases b <;> try cases h
    case schema.schema => exact meet_self none
    case table.table => exact meet_of_tablesAlike h ha.1 hb.1
    case column.column => exact meet_of_columnsAlike h ha.wellNamed hb.wellNamed
    all_goals simp [Object.kind] at hkind

end Plain

end Identity

end SchemaDelta

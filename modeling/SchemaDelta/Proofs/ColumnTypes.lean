import SchemaDelta.Proofs.Criteria
import SchemaDelta.Proofs.JoinedNames
import SchemaDelta.Proofs.TypeText

/-!
# Types of columns

As an attribute the type of a column is a name: what is compared are the written forms, in the
spelling of the dialect. For data types in other places there is a criterion of their own, which
takes a type without parameters for compatible with one that has some, and to which case is of no
account. The two judge most types alike, and those that they do not are told by their names and
parameters: case leaves alone the parameters of a written type, and the parenthesis in front of
them.

## Main definitions

* `DataType.parameters` — the parameters that a type shows.
* `Dialect.spelling` — a name as it counts in a dialect.
* `Misjudged` — types that the two criteria judge differently.
-/

namespace SchemaDelta

variable {d : Dialect} {p : Policy} {t u : DataType} {x y : Column} {l : Ledger}

/-- A name as it counts in a dialect. -/
def Dialect.spelling (d : Dialect) (name : String) : String := d.folded (d.correctName name)

/-! ## Written types and case -/

namespace DataType

/-- The parameters that are shown; there are none without a size. -/
def parameters (t : DataType) : Option (UInt32 × Option UInt32) := t.size.map fun n => (n, t.digits)

theorem hasParameters_eq (t : DataType) : t.hasParameters = t.parameters.isSome := by
  simp [hasParameters, parameters]

/-- The type under another name. -/
def rename (t : DataType) (name : String) : DataType := { t with name }

/-- The characters that parameters are written in have no case. -/
theorem caseless_of_parameter {c : Char} (h : c.isDigit ∨ c = ',' ∨ c = ')') :
    Text.lowerChar c = [c] ∧ Text.upperChar c = [c] := by
  have ascii : c.toNat < 128 := by
    rcases h with digit | rfl | rfl
    · have range : 48 ≤ c.toNat ∧ c.toNat ≤ 57 := Char.isDigit_iff_toNat.1 digit
      omega
    · decide
    · decide
  exact Text.forall_ascii (q := fun c => c.isDigit ∨ c = ',' ∨ c = ')' →
    Text.lowerChar c = [c] ∧ Text.upperChar c = [c]) (by decide +kernel) ascii h

theorem parenthesis_not_mem {tail : List Char} (h : ∀ c ∈ tail, c.isDigit ∨ c = ',' ∨ c = ')') :
    '(' ∉ tail := by
  intro mem
  exact absurd (h '(' mem) (by decide)

/-- A change of texts that leaves the parameters of a written type as they are. -/
def KeepsParameters (f : String → String) : Prop :=
  ∀ t : DataType, f t.text = (t.rename (f t.name)).text

namespace KeepsParameters

theorem id : KeepsParameters fun s => s := fun _ => rfl

theorem comp {f g : String → String} (hg : KeepsParameters g) (hf : KeepsParameters f) :
    KeepsParameters fun s => g (f s) := by
  intro t
  exact (congrArg g (hf t)).trans (hg (t.rename (f t.name)))

/-- Parameters stay as they are where a parenthesis, and what stands behind it, does. -/
theorem of_behind {f : String → String}
    (behind : ∀ name tail, (∀ c ∈ tail, Text.lowerChar c = [c] ∧ Text.upperChar c = [c]) →
      (f (String.ofList (name ++ '(' :: tail))).toList =
        (f (String.ofList name)).toList ++ '(' :: tail) : KeepsParameters f := by
  intro t
  cases sized : t.size with
  | none =>
    have unsized : (t.rename (f t.name)).size = none := sized
    rw [text_of_unsized sized, text_of_unsized unsized, rename]
  | some v =>
    obtain ⟨tail, shown, -, plain⟩ := exists_parameters v t.digits
    have whole (name : String) : (t.rename name).text.toList = name.toList ++ '(' :: tail := by
      rw [toList_text, rename, sized, Option.map_some, shown]
    have written : t.text = String.ofList (t.name.toList ++ '(' :: tail) := by
      rw [← whole, String.ofList_toList]
      rfl
    rw [← String.toList_inj, whole, written,
      behind _ _ fun c hc => caseless_of_parameter (plain c hc), String.ofList_toList]

theorem lower : KeepsParameters Text.lower := by
  refine of_behind fun name tail plain => ?_
  simp only [Text.lower, String.toList_ofList, Text.lowerChars]
  rw [Text.lowerFrom_append_caseless Text.fixed_parenthesis.caseless,
    Text.lowerFrom_of_settled fun c hc => (plain c hc).1]

theorem upper : KeepsParameters Text.upper := by
  refine of_behind fun name tail plain => ?_
  have settled : tail.flatMap Text.upperChar = tail := by
    rw [List.flatMap_congr fun c hc => (plain c hc).2, List.flatMap_singleton']
  simp only [Text.upper, String.toList_ofList, Text.upperChars, List.flatMap_append,
    List.flatMap_cons, Text.fixed_parenthesis.upperChar_eq, List.singleton_append, settled]

theorem spelling (d : Dialect) : KeepsParameters d.spelling := by
  have folded : KeepsParameters d.folded := by
    unfold Dialect.folded
    cases d.caseSensitive with
    | true => exact id
    | false => exact lower
  have corrected : KeepsParameters d.correctName := by
    unfold Dialect.correctName NameCase.apply
    cases d.caseSensitive with
    | true => exact id
    | false =>
      cases d.nameCase with
      | asWritten => exact id
      | upper => exact upper
      | lower => exact lower
  exact folded.comp corrected

end KeepsParameters

/-- A parenthesis in a written type that is none of its name is the one in front of the
parameters. -/
theorem count_text (t : DataType) :
    t.text.toList.count '(' = t.name.toList.count '(' + if t.hasParameters then 1 else 0 := by
  cases sized : t.size with
  | none => simp [text_of_unsized sized, hasParameters, sized]
  | some v =>
    obtain ⟨tail, shown, -, plain⟩ := exists_parameters v t.digits
    rw [toList_text, sized, Option.map_some, shown, List.count_append, List.count_cons_self,
      List.count_eq_zero_of_not_mem (parenthesis_not_mem plain), hasParameters, sized]
    rfl

/-- The last parenthesis tells what stands in front of it from what stands behind it. -/
theorem append_parenthesis_eq_iff {cs cs' tail tail' : List Char} (h : '(' ∉ tail)
    (h' : '(' ∉ tail') : cs ++ '(' :: tail = cs' ++ '(' :: tail' ↔ cs = cs' ∧ tail = tail' := by
  constructor
  · intro same
    rcases List.append_eq_append_iff.1 same with ⟨more, rfl, rest⟩ | ⟨more, rfl, rest⟩ <;>
      cases more <;> grind
  · rintro ⟨rfl, rfl⟩
    rfl

/-- Types that both have parameters, or both have none, are written alike when they have one name
and the same parameters. -/
theorem text_eq_text_iff (both : t.hasParameters = u.hasParameters) :
    t.text = u.text ↔ t.name = u.name ∧ t.parameters = u.parameters := by
  cases ht : t.size with
  | none =>
    cases hu : u.size with
    | none => simp [text_of_unsized, parameters, ht, hu]
    | some w => simp [hasParameters, ht, hu] at both
  | some v =>
    cases hu : u.size with
    | none => simp [hasParameters, ht, hu] at both
    | some w =>
      obtain ⟨tail, shown, written, plain⟩ := exists_parameters v t.digits
      obtain ⟨tail', shown', written', plain'⟩ := exists_parameters w u.digits
      rw [← String.toList_inj, toList_text, toList_text, ht, hu, Option.map_some, Option.map_some,
        shown, shown',
        append_parenthesis_eq_iff (parenthesis_not_mem plain) (parenthesis_not_mem plain'),
        String.toList_inj, parameters, parameters, ht, hu, Option.map_some, Option.map_some,
        Option.some.injEq, Prod.mk.injEq]
      refine and_congr_right' ⟨?_, ?_⟩
      · rintro rfl
        obtain ⟨sizes, digits⟩ := written.unique written'
        exact ⟨decimal_injective sizes, Option.map_injective decimal_injective digits⟩
      · rintro ⟨rfl, same⟩
        rw [← same, shown] at shown'
        exact List.tail_eq_of_cons_eq shown'

/-! ## The two criteria -/

/-- A change of names that leaves parameters alone tells types apart by their names and
parameters. -/
theorem KeepsParameters.text_eq_iff {f : String → String} (hf : KeepsParameters f)
    (both : t.hasParameters = u.hasParameters) :
    f t.text = f u.text ↔ f t.name = f u.name ∧ t.parameters = u.parameters := by
  rw [hf t, hf u]
  exact text_eq_text_iff (t := t.rename (f t.name)) (u := u.rename (f u.name)) both

end DataType

theorem Dialect.count_spelling {c : Char} (h : Text.Fixed c) (n : String) :
    (d.spelling n).toList.count c = n.toList.count c := by
  unfold spelling correctName
  rw [count_folded h]
  split
  · rfl
  · exact NameCase.count_apply h d.nameCase n

open DataType

/-- Compatible types have one name, case aside, and do not have different parameters. -/
theorem compatibleTypes_iff : Criterion.compatibleTypes t u = true ↔
    Text.lower t.name = Text.lower u.name ∧
      (t.hasParameters = u.hasParameters → t.parameters = u.parameters) := by
  have texts := fun both => KeepsParameters.lower.text_eq_iff (t := t) (u := u) both
  have params (h : t.hasParameters = false) (h' : u.hasParameters = false) :
      t.parameters = u.parameters := by
    rw [hasParameters_eq, Option.isSome_eq_false_iff, Option.isNone_iff_eq_none] at h h'
    rw [h, h']
  unfold Criterion.compatibleTypes Text.sameIgnoringCase
  cases ht : t.hasParameters <;> cases hu : u.hasParameters <;> simp_all

/-- Types of which one has parameters and the other has none, and whose names are equal up to case,
are not written alike. -/
theorem spelling_text_ne (names : Text.lower t.name = Text.lower u.name)
    (one : t.hasParameters ≠ u.hasParameters) : d.spelling t.text ≠ d.spelling u.text := by
  intro same
  -- the parameters bring one parenthesis with them, and case takes none away
  have counts := congrArg (fun s => s.toList.count '(') same
  have named := congrArg (fun s => s.toList.count '(') names
  simp only [Dialect.count_spelling Text.fixed_parenthesis, count_text,
    Text.fixed_parenthesis.count_lower] at counts named
  cases ht : t.hasParameters <;> cases hu : u.hasParameters <;> simp_all

/-- The types that their written forms, in the spelling of a dialect, do not judge as the criterion
for data types does. -/
inductive Misjudged (d : Dialect) (t u : DataType) : Prop
  /-- A type without parameters is compatible with one that has some. -/
  | bare (names : Text.lower t.name = Text.lower u.name) (one : t.hasParameters ≠ u.hasParameters)
  /-- The dialect tells names apart that are equal up to case. -/
  | spelled (names : Text.lower t.name = Text.lower u.name) (shown : t.parameters = u.parameters)
      (apart : d.spelling t.name ≠ d.spelling u.name)
  /-- The dialect has names for one that are not equal up to case. -/
  | folded (names : Text.lower t.name ≠ Text.lower u.name) (shown : t.parameters = u.parameters)
      (one : d.spelling t.name = d.spelling u.name)
  /-- A name looks like the written form of a type with parameters. -/
  | named (one : t.hasParameters ≠ u.hasParameters)
      (same : d.spelling t.text = d.spelling u.text)

theorem misjudged_iff : Misjudged d t u ↔
    ¬(d.spelling t.text = d.spelling u.text ↔ Criterion.compatibleTypes t u = true) := by
  rw [compatibleTypes_iff]
  by_cases both : t.hasParameters = u.hasParameters
  · rw [(KeepsParameters.spelling d).text_eq_iff both]
    constructor
    · rintro (⟨-, one⟩ | ⟨names, shown, apart⟩ | ⟨names, shown, one⟩ | ⟨one, -⟩) <;> simp_all
    · intro h
      by_cases names : Text.lower t.name = Text.lower u.name
      · exact .spelled names (by grind) (by grind)
      · exact .folded names (by grind) (by grind)
  · have shown : t.parameters ≠ u.parameters := by
      intro shown
      rw [hasParameters_eq, hasParameters_eq, shown] at both
      exact both rfl
    by_cases names : Text.lower t.name = Text.lower u.name
    · have apart := spelling_text_ne (d := d) names both
      exact iff_of_true (.bare names both) (by simp [apart, names, both])
    · constructor
      · rintro (⟨names', -⟩ | ⟨-, shown', -⟩ | ⟨-, shown', -⟩ | ⟨-, same⟩) <;> simp_all
      · intro h
        exact .named both (by grind)

/-! ## Columns -/

namespace Differences

theorem agree?_type (ht : x.dataType = some t) (hu : y.dataType = some u) :
    Ledger.agree? (.column x) (.column y) .type
        (criterionOf d p (.column x) (.column y) .type) =
      .ok (d.namesEqual (d.correctName t.text) (d.correctName u.text)) := by
  have own : criterionOf d p (.column x) (.column y) .type = Criterion.byName .column d := rfl
  rw [own, Ledger.agree?, facing_of_closed rfl]
  change Criterion.onOptional _ (x.dataType.map .dataType) (y.dataType.map .dataType) = _
  rw [ht, hu]
  rfl

end Differences

open Rulebook Differences

/-- Outside Postgres a difference in type is found between two columns when their types are not
written alike in the spelling of the dialect. That is when they are not compatible, unless one of
them has parameters and the other has none, or the case in which the dialect has names makes two of
one or one of two. Where case does not count and names are not put in upper case, it is only types
with parameters and types without any that are misjudged. -/
theorem mem_differences_type_iff (hd : d.family ≠ .postgres)
    (unsuppressed : p.isSuppressed .column .type = false) (ht : x.dataType = some t)
    (hu : y.dataType = some u)
    (h : ((builtin d).judge d p).differences (some (.column x)) (some (.column y)) [] = .ok l) :
    (.type ∈ l.fields ↔ d.spelling t.text ≠ d.spelling u.text) ∧
      ((.type ∈ l.fields ↔ Criterion.compatibleTypes t u = false) ↔ ¬Misjudged d t u) ∧
      (d.caseSensitive = false → d.nameCase ≠ .upper →
        (Misjudged d t u ↔ t.hasParameters ≠ u.hasParameters ∧
          (Text.lower t.name = Text.lower u.name ∨ Text.lower t.text = Text.lower u.text))) := by
  have reported : .type ∈ reportable d p (.column x) (.column y) := by
    simp [reportable, Object.kind, unreported, mem_fields_iff, Kind.fields, hd]
  have found : .type ∈ l.fields ↔ d.spelling t.text ≠ d.spelling u.text := by
    refine (mem_fields_iff_of_agree? (a := .column x) (b := .column y) rfl h (by decide) reported
      (agree?_type ht hu)).trans ?_
    rw [← Bool.not_eq_true (d.namesEqual _ _), Dialect.namesEqual_iff]
    exact and_iff_right unsuppressed
  refine ⟨found, ?_, ?_⟩
  · rw [found, misjudged_iff, not_not, ← Bool.not_eq_true, ne_eq, not_iff_not]
  · intro insensitive notUpper
    have lowered (s : String) : d.spelling s = Text.lower s := by
      rw [Dialect.spelling, Dialect.folded, insensitive]
      exact Dialect.lower_correctName_of_case (.inr notUpper) s
    constructor
    · rintro (⟨names, one⟩ | ⟨names, -, apart⟩ | ⟨names, -, one⟩ | ⟨one, same⟩) <;> simp_all
    · rintro ⟨one, names | same⟩
      · exact .bare names one
      · exact .named one (by rw [lowered, lowered, same])

/-- A column of a type. -/
def typedColumn (origin : Nat) (name type : String) : Column :=
  { namedColumn origin name with dataType := some (.parse type) }

/-- Both types have parameters, so that they are judged as data types are. -/
theorem mem_differences_type_iff_sized :
    let j := (builtin .mysql).judge .mysql .standard
    let x := typedColumn 0 "code" "varchar(10)"
    let y := typedColumn 1 "code" "VARCHAR( 20 )"
    Criterion.compatibleTypes (.parse "varchar(10)") (.parse "VARCHAR( 20 )") = false ∧
      ∃ l, j.differences (some (.column x)) (some (.column y)) [] = .ok l ∧ .type ∈ l.fields := by
  intro j x y
  have apart :
      Criterion.compatibleTypes (.parse "varchar(10)") (.parse "VARCHAR( 20 )") = false := by
    decide +kernel
  obtain ⟨l, hl⟩ := Fallible.exists_eq_ok_of_isOk
    (x := j.differences (some (.column x)) (some (.column y)) []) (by decide +kernel)
  obtain ⟨-, judged, misjudged⟩ :=
    mem_differences_type_iff (t := .parse "varchar(10)") (u := .parse "VARCHAR( 20 )")
      (by decide) (by decide) rfl rfl hl
  have sized : ¬Misjudged .mysql (.parse "varchar(10)") (.parse "VARCHAR( 20 )") := by
    rw [misjudged rfl (by decide)]
    decide +kernel
  exact ⟨apart, l, hl, (judged.2 sized).2 apart⟩

/-- Types that are compatible are a difference between columns. -/
theorem compatible_column_types_differ :
    let j := (builtin .mysql).judge .mysql .standard
    let x := typedColumn 0 "c" "varchar"
    let y := typedColumn 1 "c" "varchar(255)"
    Criterion.compatibleTypes (.parse "varchar") (.parse "varchar(255)") = true ∧
      (j.differences (some (.column x)) (some (.column y)) []).map (·.fields) = .ok [.type] := by
  decide +kernel

end SchemaDelta

import SchemaDelta.DataType
import SchemaDelta.Proofs.Runs
import SchemaDelta.Proofs.Trim

/-!
# Written data types

A text is read as a type with parameters when it matches the pattern of one, and the groups of the
match are the name and the runs of digits. The pattern is stated here as a relation on texts, with
the match that is preferred among all of them: as many blanks as possible in front, and then a name
as short as possible. Reading is shown to follow it, and so is what is left of a text that is read
and written again: all of it but the blanks and the leading zeros, and but the numbers that have no
value.

## Main definitions

* `DataType.Reading` — one way in which a text matches the pattern.
* `DataType.Captures` — the groups of the match that is preferred.
* `DataType.kept` — what is left of a number that is read and written again.
* `DataType.Plain` — types with a name that is told from the parameters behind it.
-/

namespace SchemaDelta.DataType

variable {cs front lead gap name name' size size' ds rest tail : List Char} {c : Char}
  {digits digits' : Option (List Char)}

/-! ## Numbers -/

/-- What is left of a number when it is read and written again: the significant digits of one that
is written in ASCII and fits in 32 bits. -/
def kept (ds : List Char) : Option (List Char) :=
  if ds.all Char.isDigit && decide (Nat.ofDigitChars 10 ds 0 < UInt32.size) then
    some (Text.significant ds)
  else none

/-- A number in decimal form. -/
def decimal (v : UInt32) : List Char := Nat.toDigits 10 v.toNat

theorem decimal_injective : Function.Injective decimal := by
  intro v w h
  have values := congrArg (Nat.ofDigitChars 10 · 0) h
  simp only [decimal, Nat.ofDigitChars_ten_toDigits] at values
  exact UInt32.toNat_inj.1 values

theorem parameter?_eq (h : ds ≠ []) :
    parameter? ds =
      if ds.all Char.isDigit && decide (Nat.ofDigitChars 10 ds 0 < UInt32.size) then
        some (UInt32.ofNat (Nat.ofDigitChars 10 ds 0))
      else none := by
  rw [parameter?, Text.natBelow?, if_neg (by simpa using h), Text.digitsValue?_eq]
  by_cases ascii : ds.all Char.isDigit
  · by_cases fits : Nat.ofDigitChars 10 ds 0 < UInt32.size
    · simp only [ascii, fits, decide_true, Bool.and_self, if_true, Option.filter_some,
        Option.map_some]
    · simp only [ascii, fits, decide_false, Bool.and_false, if_true, Option.filter_some,
        Bool.false_eq_true, if_false, Option.map_none]
  · simp only [ascii, Bool.false_and, Bool.false_eq_true, if_false, Option.filter_none,
      Option.map_none]

theorem kept_eq_map (h : ds ≠ []) : kept ds = (parameter? ds).map decimal := by
  rw [kept, parameter?_eq h]
  split
  · next valued =>
    simp only [Bool.and_eq_true, decide_eq_true_iff] at valued
    rw [Option.map_some, decimal, UInt32.toNat_ofNat_of_lt' valued.2,
      Text.toDigits_ofDigitChars (List.all_eq_true.1 valued.1)]
  · rfl

theorem parameter?_decimal (v : UInt32) : parameter? (decimal v) = some v := by
  have value : Nat.ofDigitChars 10 (decimal v) 0 = v.toNat := Nat.ofDigitChars_ten_toDigits
  have ascii : (decimal v).all Char.isDigit := Text.all_isDigit_toDigits _
  have nonempty : decimal v ≠ [] := Nat.toDigits_ne_nil
  rw [parameter?_eq nonempty, value, if_pos, UInt32.ofNat_toNat]
  simp only [ascii, v.toNat_lt_size, decide_true, Bool.and_self]

/-! ## The pattern -/

abbrev Blanks (cs : List Char) : Prop := ∀ c ∈ cs, Text.isBlank c

/-- A run of decimal digits of any script. -/
structure DigitRun (ds : List Char) : Prop where
  nonempty : ds ≠ []
  digits : ∀ c ∈ ds, Text.isAnyDigit c

/-- Blanks, and a closing parenthesis between them. -/
def Closing (cs : List Char) : Prop := ∃ before after, Blanks before ∧ Blanks after ∧
  cs = before ++ ')' :: after

/-- What stands behind the opening parenthesis, with its one or two runs of digits. -/
inductive Parameters : List Char → List Char → Option (List Char) → Prop
  | one {before size rest : List Char} (blanks : Blanks before) (run : DigitRun size)
      (closing : Closing rest) : Parameters (before ++ (size ++ rest)) size none
  | two {before size middle behind digits rest : List Char} (blanks : Blanks before)
      (run : DigitRun size) (comma : Blanks middle ∧ Blanks behind) (second : DigitRun digits)
      (closing : Closing rest) :
      Parameters (before ++ (size ++ (middle ++ ',' :: (behind ++ (digits ++ rest))))) size
        (some digits)

/-- A text matches the pattern with some blanks in front, a name, and one or two runs of digits:
`^\s*([^()]+?)\s*\(\s*(\d+)\s*(?:,\s*(\d+)\s*)?\)\s*$`. -/
structure Reading (cs lead name size : List Char) (digits : Option (List Char)) : Prop where
  leading : Blanks lead
  nonempty : name ≠ []
  plain : ∀ c ∈ name, isParenthesis c = false
  parameters : ∃ gap tail, Blanks gap ∧ Parameters tail size digits ∧
    cs = lead ++ name ++ gap ++ '(' :: tail

/-- The groups of the match that is preferred: it takes as many blanks in front as it can, and then
the shortest name. -/
def Captures (cs name size : List Char) (digits : Option (List Char)) : Prop :=
  ∃ lead, Reading cs lead name size digits ∧
    ∀ lead' name' size' digits', Reading cs lead' name' size' digits' →
      lead'.length < lead.length ∨ lead'.length = lead.length ∧ name.length ≤ name'.length

/-! ### Classes of characters -/

theorem isParenthesis_of_isBlank (h : Text.isBlank c) : isParenthesis c = false :=
  Text.forall_blank (q := fun c => isParenthesis c = false) (by decide) h

theorem isAnyDigit_of_isBlank (h : Text.isBlank c) : Text.isAnyDigit c = false :=
  Text.forall_blank (q := fun c => Text.isAnyDigit c = false) (by decide +kernel) h

theorem isBlank_of_isAnyDigit (h : Text.isAnyDigit c) : Text.isBlank c = false := by
  grind [isAnyDigit_of_isBlank]

theorem skipBlanks_append (blanks : Blanks cs) (stop : ∀ c ∈ rest.head?, Text.isBlank c = false) :
    skipBlanks (cs ++ rest) = rest := (Text.span_append blanks stop).2

theorem skipBlanks_append_cons (blanks : Blanks cs) (hc : Text.isBlank c = false) :
    skipBlanks (cs ++ c :: rest) = c :: rest :=
  skipBlanks_append blanks (by simpa using hc)

theorem exists_skipBlanks (cs : List Char) : ∃ before, Blanks before ∧ cs = before ++ skipBlanks cs :=
  ⟨cs.takeWhile Text.isBlank, fun _ hc => List.mem_takeWhile_imp hc,
    List.takeWhile_append_dropWhile.symm⟩

theorem DigitRun.head? (h : DigitRun ds) (rest : List Char) :
    ∀ c ∈ (ds ++ rest).head?, Text.isBlank c = false := by
  intro c hc
  obtain ⟨d, ds, rfl⟩ := List.exists_cons_of_ne_nil h.nonempty
  obtain rfl : d = c := by simpa using hc
  exact isBlank_of_isAnyDigit (h.digits d List.mem_cons_self)

/-- A run of digits ends at blanks, or at a character behind them that is no digit. -/
theorem DigitRun.span (h : DigitRun ds) (blanks : Blanks cs) (hc : Text.isAnyDigit c = false)
    (rest : List Char) :
    (ds ++ (cs ++ c :: rest)).takeWhile Text.isAnyDigit = ds ∧
      (ds ++ (cs ++ c :: rest)).dropWhile Text.isAnyDigit = cs ++ c :: rest := by
  refine Text.span_append h.digits ?_
  cases cs with
  | nil => simpa using hc
  | cons b cs => simpa using isAnyDigit_of_isBlank (blanks b List.mem_cons_self)

/-! ### Parameters -/

theorem closes_iff : closes cs = true ↔ Closing cs := by
  constructor
  · intro h
    obtain ⟨before, hbefore, split⟩ := exists_skipBlanks cs
    unfold closes at h
    split at h
    · next rest closed =>
      obtain ⟨after, hafter, split'⟩ := exists_skipBlanks rest
      rw [List.isEmpty_iff.1 h, List.append_nil] at split'
      exact ⟨before, rest, hbefore, split' ▸ hafter, closed ▸ split⟩
    · cases h
  · rintro ⟨before, after, hbefore, hafter, rfl⟩
    rw [closes, skipBlanks_append_cons hbefore (by decide)]
    have : skipBlanks after = [] := List.dropWhile_eq_nil_iff.2 hafter
    simpa using this

theorem Closing.behind_blanks (blanks : Blanks cs) (h : Closing rest) : Closing (cs ++ rest) := by
  obtain ⟨before, after, hbefore, hafter, rfl⟩ := h
  exact ⟨cs ++ before, after, List.forall_mem_append.2 ⟨blanks, hbefore⟩, hafter, by simp⟩

theorem Parameters.read (h : Parameters tail size digits) :
    parameterRuns? tail = some (size, digits) := by
  cases h with
  | one blanks run closing =>
    obtain ⟨before, after, hbefore, hafter, rfl⟩ := closing
    obtain ⟨taken, left⟩ := run.span hbefore (c := ')') (by decide) after
    have closed : closes (')' :: after) = true :=
      closes_iff.2 ⟨[], after, List.forall_mem_nil _, hafter, rfl⟩
    simp only [parameterRuns?, skipBlanks_append blanks (run.head? _), taken, left,
      skipBlanks_append_cons hbefore (c := ')') (by decide)]
    simp [run.nonempty, closed]
  | @two before size middle behind second rest blanks run comma secondRun closing =>
    obtain ⟨before', after, hbefore, hafter, rfl⟩ := closing
    obtain ⟨taken, left⟩ := run.span comma.1 (c := ',') (by decide)
      (behind ++ (second ++ (before' ++ ')' :: after)))
    obtain ⟨taken', left'⟩ := secondRun.span hbefore (c := ')') (by decide) after
    have closed : closes (before' ++ ')' :: after) = true :=
      closes_iff.2 ⟨before', after, hbefore, hafter, rfl⟩
    simp only [parameterRuns?, skipBlanks_append blanks (run.head? _), taken, left,
      skipBlanks_append_cons comma.1 (c := ',') (by decide),
      skipBlanks_append comma.2 (secondRun.head? _), taken', left']
    simp [run.nonempty, secondRun.nonempty, closed]

theorem digitRun_takeWhile (h : ¬(cs.takeWhile Text.isAnyDigit).isEmpty) :
    DigitRun (cs.takeWhile Text.isAnyDigit) :=
  ⟨by simpa using h, fun _ hc => List.mem_takeWhile_imp hc⟩

theorem Parameters.of_read (h : parameterRuns? tail = some (size, digits)) :
    Parameters tail size digits := by
  obtain ⟨before, hbefore, split⟩ := exists_skipBlanks tail
  obtain ⟨middle, hmiddle, split'⟩ := exists_skipBlanks ((skipBlanks tail).dropWhile Text.isAnyDigit)
  rw [← List.takeWhile_append_dropWhile (p := Text.isAnyDigit) (l := skipBlanks tail)] at split
  simp only [parameterRuns?] at h
  split at h
  · cases h
  · next nonempty =>
    have run := digitRun_takeWhile nonempty
    split at h
    · next rest behindComma =>
      obtain ⟨behind, hbehind, split''⟩ := exists_skipBlanks rest
      rw [← List.takeWhile_append_dropWhile (p := Text.isAnyDigit) (l := skipBlanks rest)] at split''
      rw [Option.ite_none_right_eq_some, Option.some.injEq, Prod.mk.injEq, Bool.and_eq_true,
        Bool.not_eq_true', ← Bool.not_eq_true] at h
      obtain ⟨⟨nonempty', closed⟩, rfl, rfl⟩ := h
      have two := Parameters.two hbefore run ⟨hmiddle, hbehind⟩ (digitRun_takeWhile nonempty')
        (closes_iff.1 closed)
      rwa [← split'', ← behindComma, ← split', ← split] at two
    · rw [Option.ite_none_right_eq_some, Option.some.injEq, Prod.mk.injEq] at h
      obtain ⟨closed, rfl, rfl⟩ := h
      have one := Parameters.one hbefore run ((closes_iff.1 closed).behind_blanks hmiddle)
      rwa [← split', ← split] at one

/-! ### Names -/

/-- A name has no blanks around it, but for one that is a blank. -/
def Tight (name : List Char) : Prop := Text.trimChars name = name ∨ ∃ c, Text.isBlank c ∧ name = [c]

/-- A name is what is left of the text in front of the parenthesis without the blanks around it. Of
blanks alone the last is the name. -/
theorem parameterName?_of_ne_nil (h : front ≠ []) : ∃ lead name gap,
    parameterName? front = some name ∧ name ≠ [] ∧ Tight name ∧ front = lead ++ name ++ gap ∧
      Blanks lead ∧ Blanks gap ∧
      ((∀ c ∈ name.head?, ¬Text.isBlank c) ∧ (∀ c ∈ name.getLast?, ¬Text.isBlank c) ∨
        name.length = 1 ∧ gap = []) := by
  obtain ⟨lead, gap, split, hlead, hgap⟩ := Text.exists_trimChars front
  have last := List.getLast?_eq_some_getLast h
  cases trimmed : Text.trimChars front with
  | nil =>
    have blanks : Blanks front := by
      rw [split, trimmed, List.append_nil]
      exact List.forall_mem_append.2 ⟨hlead, hgap⟩
    refine ⟨front.dropLast, [front.getLast h], [], ?_, List.cons_ne_nil _ _,
      .inr ⟨_, blanks _ (List.getLast_mem h), rfl⟩, ?_,
      fun c hc => blanks c (List.dropLast_subset front hc), List.forall_mem_nil _, .inr ⟨rfl, rfl⟩⟩
    · rw [parameterName?, trimmed, last]
    · rw [List.append_nil, List.dropLast_concat_getLast]
  | cons c cs =>
    refine ⟨lead, c :: cs, gap, ?_, List.cons_ne_nil _ _, .inl ?_, trimmed ▸ split, hlead, hgap,
      .inl ?_⟩
    · rw [parameterName?, trimmed, last]
    · rw [← trimmed, Text.trimChars_trimChars]
    · exact trimmed ▸ Text.ends_trimChars front

theorem Tight.parameterName? (h : Tight name) (nonempty : name ≠ []) :
    parameterName? name = some name := by
  have last := List.getLast?_eq_some_getLast nonempty
  rcases h with trimmed | ⟨c, blank, rfl⟩
  · obtain ⟨c, cs, rfl⟩ := List.exists_cons_of_ne_nil nonempty
    rw [DataType.parameterName?, trimmed, last]
  · simp [DataType.parameterName?, Text.trimChars, blank]

/-! ### Matches -/

/-- What stands in front of the first parenthesis is told from what stands behind it. -/
theorem span_parenthesis (plain : ∀ c ∈ front, isParenthesis c = false) (tail : List Char) :
    (front ++ '(' :: tail).takeWhile (fun c => !isParenthesis c) = front ∧
      (front ++ '(' :: tail).dropWhile (fun c => !isParenthesis c) = '(' :: tail :=
  Text.span_append (by simpa using plain) (by simp [isParenthesis])

/-- Where a text matches the pattern, the name and the blanks around it stand in front of the first
parenthesis. -/
theorem Reading.exists_tail (h : Reading cs lead name size digits) : ∃ gap tail,
    cs = lead ++ name ++ gap ++ '(' :: tail ∧ Blanks gap ∧ Parameters tail size digits ∧
      ∀ c ∈ lead ++ name ++ gap, isParenthesis c = false := by
  obtain ⟨gap, tail, hgap, parameters, rfl⟩ := h.parameters
  refine ⟨gap, tail, rfl, hgap, parameters, ?_⟩
  simp only [List.mem_append]
  rintro c ((hc | hc) | hc)
  · exact isParenthesis_of_isBlank (h.leading c hc)
  · exact h.plain c hc
  · exact isParenthesis_of_isBlank (hgap c hc)

theorem Reading.opening_mem (h : Reading cs lead name size digits) : '(' ∈ cs := by
  obtain ⟨gap, tail, split, -⟩ := h.exists_tail
  simp [split]

theorem Parameters.unique (h : Parameters tail size digits) (h' : Parameters tail size' digits') :
    size = size' ∧ digits = digits' := by
  have same := h.read.symm.trans h'.read
  simpa using same

/-- A name that begins and ends with no blank, or is one character with nothing behind it, is what
the preferred match takes of a text. -/
theorem preferred (best : (∀ c ∈ name.head?, ¬Text.isBlank c) ∧
      (∀ c ∈ name.getLast?, ¬Text.isBlank c) ∨ name.length = 1 ∧ gap = [])
    (nonempty : name ≠ []) {lead' gap' : List Char} (hlead : Blanks lead') (nonempty' : name' ≠ [])
    (hgap : Blanks gap') (same : lead ++ (name ++ gap) = lead' ++ (name' ++ gap')) :
    lead'.length < lead.length ∨ lead'.length = lead.length ∧ name.length ≤ name'.length := by
  have lengths := congrArg List.length same
  simp only [List.length_append] at lengths
  have positive := List.length_pos_iff.2 nonempty'
  rcases best with ⟨head, last⟩ | ⟨one, rfl⟩
  · have shortest (h : name ++ gap = name' ++ gap') : name.length ≤ name'.length := by
      rcases List.append_eq_append_iff.1 h with ⟨more, rfl, -⟩ | ⟨more, rfl, rfl⟩
      · simp
      · rcases List.eq_nil_or_concat' more with rfl | ⟨more, c, rfl⟩
        · simp
        · exact absurd (hgap c (by simp)) (last c (by simp))
    rcases List.append_eq_append_iff.1 same with ⟨more, rfl, rest⟩ | ⟨more, rfl, rest⟩
    · -- the other match takes more in front, and what it takes more begins the name
      cases more with
      | nil => exact .inr ⟨by simp, shortest rest⟩
      | cons c more =>
        obtain ⟨d, name, rfl⟩ := List.exists_cons_of_ne_nil nonempty
        obtain rfl : d = c := (List.cons.inj rest).1
        exact absurd (hlead d (by simp)) (head d rfl)
    · cases more with
      | nil => exact .inr ⟨by simp, shortest rest.symm⟩
      | cons c more => exact .inl (by simp)
  · simp only [List.length_nil] at lengths
    omega

/-- Every match of a text stands in the same place, so it is the name that is read which the
preferred match takes. -/
theorem captures_of_parameterName? (plain : ∀ c ∈ front, isParenthesis c = false)
    (named : parameterName? front = some name) (parameters : Parameters tail size digits) :
    Captures (front ++ '(' :: tail) name size digits := by
  have given : front ≠ [] := by
    rintro rfl
    cases named
  obtain ⟨lead, n, gap, named', nonempty, -, rfl, hlead, hgap, best⟩ :=
    parameterName?_of_ne_nil given
  obtain rfl : n = name := Option.some.inj (named'.symm.trans named)
  have reading : Reading (lead ++ n ++ gap ++ '(' :: tail) lead n size digits :=
    ⟨hlead, nonempty, fun c hc => plain c (by simp [hc]), gap, tail, hgap, parameters, rfl⟩
  refine ⟨lead, reading, fun lead' name' size' digits' other => ?_⟩
  obtain ⟨gap', tail', split, hgap', -, plain'⟩ := other.exists_tail
  have same : lead ++ n ++ gap = lead' ++ name' ++ gap' := by
    rw [← (span_parenthesis plain tail).1, split, (span_parenthesis plain' tail').1]
  exact preferred best nonempty other.leading other.nonempty hgap' (by simpa using same)

/-- Where a text matches the pattern, one match is preferred. -/
theorem Reading.exists_captures (h : Reading cs lead name size digits) :
    ∃ name', Tight name' ∧ Captures cs name' size digits := by
  obtain ⟨gap, tail, rfl, -, parameters, plain⟩ := h.exists_tail
  have given : lead ++ name ++ gap ≠ [] := by simp [h.nonempty]
  obtain ⟨-, name', -, named, -, tight, -⟩ := parameterName?_of_ne_nil given
  exact ⟨name', tight, captures_of_parameterName? plain named parameters⟩

/-- Only one match is. -/
theorem Captures.unique (h : Captures cs name size digits) (h' : Captures cs name' size' digits') :
    name = name' ∧ size = size' ∧ digits = digits' := by
  obtain ⟨lead, reading, best⟩ := h
  obtain ⟨lead', reading', best'⟩ := h'
  have shorter := best lead' name' size' digits' reading'
  have longer := best' lead name size digits reading
  obtain ⟨gap, tail, rfl, -, parameters, plain⟩ := reading.exists_tail
  obtain ⟨gap', tail', split, -, parameters', plain'⟩ := reading'.exists_tail
  have front : lead ++ name ++ gap = lead' ++ name' ++ gap' := by
    rw [← (span_parenthesis plain tail).1, split, (span_parenthesis plain' tail').1]
  rw [front] at split
  obtain rfl : tail = tail' := by simpa using split
  have names : name = name' := by
    rw [List.append_assoc, List.append_assoc] at front
    obtain ⟨-, front⟩ := List.append_inj front (by omega)
    exact (List.append_inj front (by omega)).1
  exact ⟨names, parameters.unique parameters'⟩

/-! ## Reading -/

theorem parameterized?_append (plain : ∀ c ∈ front, isParenthesis c = false)
    (named : parameterName? front = some name) (parameters : Parameters tail size digits) :
    parameterized? (front ++ '(' :: tail) =
      some ⟨String.ofList name, parameter? size, digits.bind parameter?⟩ := by
  obtain ⟨before, behind⟩ := span_parenthesis plain tail
  simp only [parameterized?, before, behind, named, parameters.read]

theorem exists_reading (h : (parameterized? cs).isSome) :
    ∃ lead name size digits, Reading cs lead name size digits := by
  unfold parameterized? at h
  split at h
  · next tail behind =>
    split at h
    · next name size digits named read =>
      have nonempty : cs.takeWhile (fun c => !isParenthesis c) ≠ [] := by
        intro empty
        rw [empty] at named
        cases named
      refine ⟨[], cs.takeWhile fun c => !isParenthesis c, size, digits, List.forall_mem_nil _,
        nonempty, fun c hc => by simpa using List.mem_takeWhile_imp hc, [], tail,
        List.forall_mem_nil _, .of_read read, ?_⟩
      rw [List.nil_append, List.append_nil, ← behind, List.takeWhile_append_dropWhile]
    · cases h
  · cases h

variable {s s' : String} {t : DataType}

theorem parse_of_captures (h : Captures s.toList name size digits) :
    parse s = ⟨String.ofList name, parameter? size, digits.bind parameter?⟩ := by
  obtain ⟨lead, reading, -⟩ := id h
  obtain ⟨gap, tail, split, -, parameters, plain⟩ := reading.exists_tail
  have given : lead ++ name ++ gap ≠ [] := by simp [reading.nonempty]
  obtain ⟨-, n, -, named, -⟩ := parameterName?_of_ne_nil given
  obtain ⟨rfl, -⟩ := (split ▸ captures_of_parameterName? plain named parameters).unique h
  rw [parse, split, parameterized?_append plain named parameters, Option.getD_some]

theorem parse_of_not_reading (h : ¬∃ lead name size digits, Reading s.toList lead name size digits) :
    parse s = bare (Text.trim s) := by
  have unread : parameterized? s.toList = none := by
    rw [← Option.not_isSome_iff_eq_none]
    exact fun some => h (exists_reading some)
  rw [parse, unread, Option.getD_none]

/-! ## Written forms -/

/-- The parameters of a written type. -/
def writtenParameters : Option (List Char) → Option (List Char) → List Char
  | some size, some digits => '(' :: size ++ ',' :: digits ++ [')']
  | some size, none => '(' :: size ++ [')']
  | none, _ => []

theorem toList_text (t : DataType) :
    t.text.toList =
      t.name.toList ++ writtenParameters (t.size.map decimal) (t.digits.map decimal) := by
  obtain ⟨name, size, digits⟩ := t
  cases size <;> cases digits <;> simp [text, writtenParameters, decimal] <;> rfl

theorem isDigit_of_mem_decimal {v : UInt32} (h : c ∈ decimal v) : c.isDigit :=
  Nat.isDigit_of_mem_toDigits (by decide) (by decide) h

/-- The parameters of a type are written as the pattern has them, without blanks. -/
theorem exists_parameters (v : UInt32) (digits : Option UInt32) : ∃ tail,
    writtenParameters (some (decimal v)) (digits.map decimal) = '(' :: tail ∧
      Parameters tail (decimal v) (digits.map decimal) ∧
      ∀ c ∈ tail, c.isDigit ∨ c = ',' ∨ c = ')' := by
  have run (v : UInt32) : DigitRun (decimal v) :=
    ⟨Nat.toDigits_ne_nil, fun c hc => Text.isAnyDigit_of_isDigit (isDigit_of_mem_decimal hc)⟩
  have closing : Closing [')'] := ⟨[], [], List.forall_mem_nil _, List.forall_mem_nil _, rfl⟩
  have blanks : Blanks [] := List.forall_mem_nil _
  cases digits with
  | none =>
    exact ⟨decimal v ++ [')'], rfl, .one blanks (run v) closing, by grind [isDigit_of_mem_decimal]⟩
  | some w =>
    refine ⟨decimal v ++ ',' :: decimal w ++ [')'], rfl, ?_, by grind [isDigit_of_mem_decimal]⟩
    simpa using .two blanks (run v) ⟨blanks, blanks⟩ (run w) closing

/-- A written type with parameters is read as it was. -/
theorem parse_text_of_size {v : UInt32} (sized : t.size = some v) (nonempty : t.name.toList ≠ [])
    (tight : Tight t.name.toList) (plain : ∀ c ∈ t.name.toList, isParenthesis c = false) :
    parse t.text = t := by
  obtain ⟨tail, shown, parameters, -⟩ := exists_parameters v t.digits
  rw [parse, toList_text, sized, Option.map_some, shown,
    parameterized?_append plain (tight.parameterName? nonempty) parameters]
  obtain ⟨name, size, digits⟩ := t
  obtain rfl : size = some v := sized
  cases digits <;> simp [parameter?_decimal]

/-- What has no size is written as its name. -/
theorem text_of_unsized (unsized : t.size = none) : t.text = t.name := by
  simp [text, unsized]

/-- A name alone is not read as anything else, and trimmed. -/
theorem parse_text_of_unsized (unsized : t.size = none)
    (plain : ∀ c ∈ t.name.toList, isParenthesis c = false) :
    parse t.text = bare (Text.trim t.name) := by
  rw [text_of_unsized unsized, parse_of_not_reading]
  rintro ⟨lead, name, size, digits, reading⟩
  exact absurd (plain '(' reading.opening_mem) (by decide)

/-- What is read as the name of a text that matches is a name that the pattern takes as it is. -/
theorem Reading.name_parse (h : Reading s.toList lead name size digits) :
    (parse s).name.toList ≠ [] ∧ Tight (parse s).name.toList ∧
      ∀ c ∈ (parse s).name.toList, isParenthesis c = false := by
  obtain ⟨name', tight, captures⟩ := h.exists_captures
  obtain ⟨lead', reading, -⟩ := id captures
  rw [parse_of_captures captures, String.toList_ofList]
  exact ⟨reading.nonempty, tight, reading.plain⟩

/-- A type is read back just when its parameters are written behind a name that the pattern takes as
it is, or when it has none and its name does not match the pattern. -/
theorem parse_text_eq_self_iff :
    parse t.text = t ↔
      (t.size ≠ none ∧ t.name.toList ≠ [] ∧ Tight t.name.toList ∧
        ∀ c ∈ t.name.toList, isParenthesis c = false) ∨
      (t.size = none ∧ t.digits = none ∧ Text.trim t.name = t.name ∧
        ¬∃ lead name size digits, Reading t.name.toList lead name size digits) := by
  cases sized : t.size with
  | some v =>
    simp only [ne_eq, reduceCtorEq, not_false_eq_true, true_and, false_and, or_false]
    refine ⟨fun same => ?_, fun ⟨nonempty, tight, plain⟩ =>
      parse_text_of_size sized nonempty tight plain⟩
    -- only a text that matches is read with a size
    have matched : ∃ lead name size digits, Reading t.text.toList lead name size digits := by
      by_contra unmatched
      rw [← same, parse_of_not_reading unmatched] at sized
      cases sized
    obtain ⟨lead, name, size, digits, reading⟩ := matched
    have named := reading.name_parse
    rwa [same] at named
  | none =>
    simp only [ne_eq, not_true_eq_false, false_and, true_and, false_or]
    rw [text_of_unsized sized]
    by_cases matched : ∃ lead name size digits, Reading t.name.toList lead name size digits
    · simp only [matched, not_true_eq_false, and_false, iff_false]
      intro same
      obtain ⟨lead, name, size, digits, reading⟩ := matched
      -- the name that is read has no parentheses, and the text has
      obtain ⟨-, -, plain⟩ := reading.name_parse
      rw [same] at plain
      exact absurd (plain '(' reading.opening_mem) (by decide)
    · simp only [matched, not_false_eq_true, and_true]
      rw [parse_of_not_reading matched]
      obtain ⟨name, size, digits⟩ := t
      obtain rfl : size = none := sized
      simp only [bare, mk.injEq, true_and]
      exact and_comm.trans (and_congr_left' eq_comm)

/-- A type with a name that has no blank at its ends and no parenthesis in it, and with digits only
behind a size. -/
structure Plain (t : DataType) : Prop where
  nonempty : t.name ≠ ""
  first : ∀ c ∈ t.name.toList.head?, ¬Text.isBlank c
  last : ∀ c ∈ t.name.toList.getLast?, ¬Text.isBlank c
  opening : '(' ∉ t.name.toList
  closing : ')' ∉ t.name.toList
  sized : t.digits ≠ none → t.size ≠ none

theorem Plain.trimChars (h : t.Plain) : Text.trimChars t.name.toList = t.name.toList :=
  Text.trimChars_of_ends h.first h.last

theorem Plain.isParenthesis (h : t.Plain) : ∀ c ∈ t.name.toList, isParenthesis c = false := by
  intro c hc
  have opening : c ≠ '(' := fun hopen => h.opening (hopen ▸ hc)
  have closing : c ≠ ')' := fun hclose => h.closing (hclose ▸ hc)
  simp [DataType.isParenthesis, opening, closing]

/-- Plain types are read as they were written. -/
theorem parse_text_of_plain (h : t.Plain) : parse t.text = t := by
  refine parse_text_eq_self_iff.2 ?_
  by_cases sized : t.size = none
  · refine .inr ⟨sized, ?digits, ?trimmed, ?unmatched⟩
    case digits =>
      by_contra digits
      exact h.sized digits sized
    case trimmed => rw [Text.trim, h.trimChars, String.ofList_toList]
    case unmatched =>
      rintro ⟨lead, name, size, digits, reading⟩
      exact h.opening reading.opening_mem
  · have nonempty : t.name.toList ≠ [] := by simpa using h.nonempty
    exact .inl ⟨sized, nonempty, .inl h.trimChars, h.isParenthesis⟩

/-- Blanks, commas and digits inside the name are kept apart from the greatest parameters. -/
theorem parse_text_of_plain_greatest :
    Plain ⟨"time 3, 6", some 4294967295, some 0⟩ ∧
      (⟨"time 3, 6", some 4294967295, some 0⟩ : DataType).text = "time 3, 6(4294967295,0)" ∧
      parse "time 3, 6(4294967295,0)" = ⟨"time 3, 6", some 4294967295, some 0⟩ := by
  have first : "time 3, 6".toList.head?.all (!Text.isBlank ·) := by decide +kernel
  have last : "time 3, 6".toList.getLast?.all (!Text.isBlank ·) := by decide +kernel
  have plain : Plain ⟨"time 3, 6", some 4294967295, some 0⟩ :=
    { nonempty := by decide +kernel
      first := by simpa [Option.all_eq_true] using first
      last := by simpa [Option.all_eq_true] using last
      opening := by decide +kernel
      closing := by decide +kernel
      sized := fun _ => Option.some_ne_none _ }
  have shown : (⟨"time 3, 6", some 4294967295, some 0⟩ : DataType).text =
      "time 3, 6(4294967295,0)" := by decide +kernel
  exact ⟨plain, shown, shown ▸ parse_text_of_plain plain⟩

/-! ## Reading what was read -/

theorem Closing.append (h : Closing cs) (blanks : Blanks rest) : Closing (cs ++ rest) := by
  obtain ⟨before, after, hbefore, hafter, rfl⟩ := h
  exact ⟨before, after ++ rest, hbefore, List.forall_mem_append.2 ⟨hafter, blanks⟩, by simp⟩

theorem Parameters.append (h : Parameters tail size digits) (blanks : Blanks rest) :
    Parameters (tail ++ rest) size digits := by
  cases h with
  | one before run closing => simpa using .one before run (closing.append blanks)
  | two before run comma second closing =>
    simpa using .two before run comma second (closing.append blanks)

/-- A text matches the pattern as long as it does without the blanks around it. -/
theorem Reading.of_trim (h : Reading (Text.trimChars cs) lead name size digits) :
    ∃ lead, Reading cs lead name size digits := by
  obtain ⟨before, after, whole, hbefore, hafter⟩ := Text.exists_trimChars cs
  obtain ⟨gap, tail, hgap, parameters, split⟩ := h.parameters
  refine ⟨before ++ lead, List.forall_mem_append.2 ⟨hbefore, h.leading⟩, h.nonempty, h.plain, gap,
    tail ++ after, hgap, parameters.append hafter, ?_⟩
  rw [whole, split]
  simp

theorem Captures.tight (h : Captures cs name size digits) : Tight name := by
  obtain ⟨lead, reading, -⟩ := id h
  obtain ⟨name', tight, captures⟩ := reading.exists_captures
  exact (captures.unique h).1 ▸ tight

theorem Tight.trim_iff (h : Tight name) (nonempty : name ≠ []) :
    Text.trimChars name = name ↔ ¬Blanks name := by
  constructor
  · intro trimmed blanks
    have empty : Text.trimChars name = [] := by
      rw [Text.trimChars_eq, List.dropWhile_eq_nil_iff.2 blanks, List.rdropWhile_nil]
    exact nonempty (trimmed.symm.trans empty)
  · rintro ink
    rcases h with trimmed | ⟨c, blank, rfl⟩
    · exact trimmed
    · exact absurd (fun x hx => List.mem_singleton.1 hx ▸ blank) ink

theorem Captures.kept (h : Captures cs name size digits) :
    kept size = (parameter? size).map decimal ∧
      digits.bind DataType.kept = (digits.bind parameter?).map decimal := by
  obtain ⟨lead, reading, -⟩ := h
  obtain ⟨gap, tail, -, parameters, -⟩ := reading.parameters
  cases parameters with
  | one _ run => exact ⟨kept_eq_map run.nonempty, rfl⟩
  | two _ run _ second => exact ⟨kept_eq_map run.nonempty, kept_eq_map second.nonempty⟩

theorem toList_text_parse (h : Captures s.toList name size digits) :
    (parse s).text.toList = name ++ writtenParameters (kept size) (digits.bind kept) := by
  rw [toList_text, parse_of_captures h, h.kept.1, h.kept.2, String.toList_ofList]

theorem parse_eq_parse_iff (h : Captures s.toList name size digits)
    (h' : Captures s'.toList name' size' digits') :
    parse s = parse s' ↔
      name = name' ∧ kept size = kept size' ∧ digits.bind kept = digits'.bind kept := by
  rw [parse_of_captures h, parse_of_captures h', mk.injEq, String.ofList_inj, h.kept.1, h.kept.2,
    h'.kept.1, h'.kept.2, (Option.map_injective decimal_injective).eq_iff,
    (Option.map_injective decimal_injective).eq_iff]

/-- Reading what was read gives the same type, but for digits without a size, which are not written,
and for a blank without a size, which is trimmed away. -/
theorem parse_text_parse_iff (h : Captures s.toList name size digits) :
    parse (parse s).text = parse s ↔
      ¬(kept size = none ∧ (digits.bind kept ≠ none ∨ Blanks name)) := by
  obtain ⟨lead, reading, -⟩ := id h
  have names : (parse s).name.toList = name := by rw [parse_of_captures h, String.toList_ofList]
  have sizes : (parse s).size = parameter? size := by rw [parse_of_captures h]
  rw [h.kept.1, h.kept.2, Option.map_eq_none_iff, ne_eq, Option.map_eq_none_iff]
  cases sized : parameter? size with
  | some v =>
    simp only [reduceCtorEq, false_and, not_false_eq_true, iff_true]
    exact parse_text_of_size (sizes.trans sized) (names ▸ reading.nonempty) (names ▸ h.tight)
      (names ▸ reading.plain)
  | none =>
    rw [parse_text_of_unsized (sizes.trans sized) (names ▸ reading.plain), Text.trim, names,
      parse_of_captures h, sized, bare, mk.injEq, String.ofList_inj,
      h.tight.trim_iff reading.nonempty]
    simp only [true_and, not_or, not_not]
    grind

/-- A text of the form of a type with parameters is written, once read, without the blanks in it,
without leading zeros, and without the numbers that are not in ASCII or do not fit in 32 bits;
digits do not stand without a size. Two such texts are read as one type just when they have one name
and the same is left of their numbers. Reading what is written gives the same type again for every
text but those whose size is left out while their digits, or no more than a blank, are not. -/
theorem text_parse_spec (s : String) :
    (∀ lead name size digits, Reading s.toList lead name size digits →
      ∃ name', Tight name' ∧ Captures s.toList name' size digits ∧
        (parse s).text.toList = name' ++ writtenParameters (kept size) (digits.bind kept)) ∧
    (∀ s' name size digits name' size' digits',
      Captures s.toList name size digits → Captures s'.toList name' size' digits' →
        (parse s = parse s' ↔
          name = name' ∧ kept size = kept size' ∧ digits.bind kept = digits'.bind kept)) ∧
    (parse (parse s).text = parse s ↔
      ¬∃ name size digits, Captures s.toList name size digits ∧
        kept size = none ∧ (digits.bind kept ≠ none ∨ Blanks name)) := by
  refine ⟨?written, fun s' name size digits name' size' digits' => parse_eq_parse_iff, ?again⟩
  case written =>
    intro lead name size digits reading
    obtain ⟨name', tight, captures⟩ := reading.exists_captures
    exact ⟨name', tight, captures, toList_text_parse captures⟩
  case again =>
    -- a text that does not match is trimmed, and does not match then either
    by_cases matched : ∃ lead name size digits, Reading s.toList lead name size digits
    · obtain ⟨lead, name, size, digits, reading⟩ := matched
      obtain ⟨name', -, captures⟩ := reading.exists_captures
      rw [parse_text_parse_iff captures]
      refine not_congr ⟨fun lost => ⟨name', size, digits, captures, lost⟩, ?_⟩
      rintro ⟨name, size', digits', captures', lost⟩
      obtain ⟨rfl, rfl, rfl⟩ := captures.unique captures'
      exact lost
    · have unmatched : ¬∃ lead name size digits,
          Reading (Text.trim s).toList lead name size digits := by
        rintro ⟨lead, name, size, digits, reading⟩
        rw [Text.trim, String.toList_ofList] at reading
        obtain ⟨lead, reading⟩ := reading.of_trim
        exact matched ⟨lead, name, size, digits, reading⟩
      have shown : (bare (Text.trim s)).text = Text.trim s := rfl
      rw [parse_of_not_reading matched, shown, parse_of_not_reading unmatched, Text.trim_trim]
      refine iff_of_true rfl ?_
      rintro ⟨name, size, digits, ⟨lead, reading, -⟩, -⟩
      exact matched ⟨lead, name, size, digits, reading⟩

/-- Blanks around all parts, and leading zeros. -/
theorem text_parse_spec_decimal :
    let s := " decimal ( 0010 , 002 ) "
    Captures s.toList "decimal".toList "0010".toList (some "002".toList) ∧
      (parse s).text = "decimal(10,2)" ∧ parse (parse s).text = parse s := by
  intro s
  have blank : Blanks [' '] := List.all_eq_true.1 (by decide +kernel)
  have size : DigitRun "0010".toList :=
    ⟨by decide +kernel, List.all_eq_true.1 (by decide +kernel)⟩
  have digits : DigitRun "002".toList :=
    ⟨by decide +kernel, List.all_eq_true.1 (by decide +kernel)⟩
  have closing : Closing [' ', ')', ' '] := ⟨[' '], [' '], blank, blank, rfl⟩
  have plain : ∀ c ∈ "decimal".toList, isParenthesis c = false := by
    have all : "decimal".toList.all (fun c => !isParenthesis c) = true := by decide +kernel
    simpa using List.all_eq_true.1 all
  have reading : Reading s.toList [' '] "decimal".toList "0010".toList (some "002".toList) :=
    ⟨blank, by decide +kernel, plain, [' '], _, blank,
      .two blank size ⟨blank, blank⟩ digits closing, by decide +kernel⟩
  obtain ⟨name, -, captures, written⟩ := (text_parse_spec s).1 _ _ _ _ reading
  have text : (parse s).text = "decimal(10,2)" := by decide +kernel
  have parameters : writtenParameters (kept "0010".toList) ((some "002".toList).bind kept) =
      "(10,2)".toList := by
    decide +kernel
  obtain rfl : name = "decimal".toList := by
    rw [text, parameters] at written
    exact (List.append_cancel_right (written : "decimal".toList ++ "(10,2)".toList = _)).symm
  refine ⟨captures, text, (text_parse_spec s).2.2.2 ?_⟩
  rintro ⟨name', size', digits', captures', lost, -⟩
  obtain ⟨-, rfl, -⟩ := captures.unique captures'
  exact absurd lost (by decide +kernel)

/-- A size of more than 32 bits is left out of the written form, and the digits with it, so that
different sizes are read as one type and the written form as another one. -/
theorem large_size_not_kept :
    Reading "numeric(4294967296,2)".toList [] "numeric".toList "4294967296".toList
        (some "2".toList) ∧
      (parse "numeric(4294967296,2)").text = "numeric" ∧
      parse "numeric(4294967296,2)" = parse "numeric(4294967297,2)" ∧
      parse (parse "numeric(4294967296,2)").text ≠ parse "numeric(4294967296,2)" := by
  have size : DigitRun "4294967296".toList :=
    ⟨by decide +kernel, List.all_eq_true.1 (by decide +kernel)⟩
  have digits : DigitRun "2".toList := ⟨by decide +kernel, List.all_eq_true.1 (by decide +kernel)⟩
  have none : Blanks [] := List.forall_mem_nil _
  have closing : Closing [')'] := ⟨[], [], none, none, rfl⟩
  have parameters : Parameters "4294967296,2)".toList "4294967296".toList (some "2".toList) :=
    @Parameters.two [] _ [] [] _ _ none size ⟨none, none⟩ digits closing
  have plain : ∀ c ∈ "numeric".toList, isParenthesis c = false := by
    have all : "numeric".toList.all (fun c => !isParenthesis c) = true := by decide +kernel
    simpa using List.all_eq_true.1 all
  have reading : Reading "numeric(4294967296,2)".toList [] "numeric".toList "4294967296".toList
      (some "2".toList) :=
    ⟨none, by decide +kernel, plain, [], _, none, parameters, rfl⟩
  refine ⟨reading, ?_⟩
  decide +kernel

end SchemaDelta.DataType

import SchemaDelta.Proofs.Runs
import SchemaDelta.Toml.Reader

/-!
# Strings and keys in quotes

A string is written in one of four forms and a key in one of three, and each of them is read as what
it was written for, up to its closing quotes and no further. For a basic string the argument goes
character by character: a character is written in one of a few ways, and each way is read as that
character. Over several lines the count of the quotes that stand in a row is carried along, since
only the third of them can end the string.

## Main definitions

* `Escape` — the ways to write a character in a basic string.
* `EndsWithThree` — how a string over several lines treats its quotes.
* `StringForm.Holds` — what a form asks of a text that is written in it.
-/

namespace SchemaDelta.Toml

variable {lines : Bool} {c q : Char} {cs rest : List Char}

/-! ## Characters of basic strings -/

/-- The ways to write a character, other than a quote that stands for itself. -/
inductive Escape (lines : Bool) (c : Char) : List Char → Prop
  | plain (plain : isPlain c) (notQuote : c ≠ '"') (notSlash : c ≠ '\\') : Escape lines c [c]
  | lineBreak (inLines : lines) (isBreak : c = '\n') : Escape lines c [c]
  /-- Nothing that ends a line stands behind the backslash. -/
  | short {e : Char} (stands : shortEscape? e = some c)
      (other : e ≠ 'u' ∧ e ≠ 'U' ∧ e ≠ '\n' ∧ e ≠ '\x0d' ∧ isSpace e = false) :
      Escape lines c ['\\', e]
  | code {x y : Char} (stands : codePoint? ['0', '0', x, y] = some c) :
      Escape lines c ['\\', 'u', '0', '0', x, y]

/-- The two last digits of a control character are its code. -/
theorem codePoint?_hexDigit : ∀ n < 0x80,
    codePoint? ['0', '0', hexDigit (n / 16), hexDigit (n % 16)] = some (Char.ofNat n) := by
  decide +kernel

theorem escape_escapeChar (lines : Bool) (hc : c ≠ '"') : Escape lines c (escapeChar lines c) := by
  unfold escapeChar
  split
  any_goals exact .short rfl (by decide)
  · cases lines with
    | false => exact .short rfl (by decide)
    | true => exact .lineBreak rfl rfl
  · next notSlash =>
    split
    · next control =>
      simp only [Bool.or_eq_true, decide_eq_true_eq, beq_iff_eq] at control
      refine .code ?_
      rw [codePoint?_hexDigit _ (by omega), Char.ofNat_toNat]
    · next printed =>
      simp only [Bool.or_eq_true, decide_eq_true_eq, beq_iff_eq, not_or, Nat.not_lt] at printed
      exact .plain (by simp [isPlain, printed]) hc notSlash

theorem escape_cons {run : Nat} (hc : c ≠ '"') :
    escape lines run (c :: cs) = escapeChar lines c ++ escape lines 0 cs := by
  rw [escape]
  exact hc

theorem Escape.append_ne_quote {w : List Char} (h : Escape lines c w) (t : List Char) :
    w ++ rest ≠ '"' :: t := by
  cases h <;> simp_all

theorem Escape.isPlain_head? {w : List Char} (h : Escape lines c w) (oneLine : c ≠ '\n') :
    ∀ x ∈ (w ++ rest).head?, isPlain x := by
  cases h with
  | plain plain =>
    rintro _ ⟨⟩
    exact plain
  | lineBreak inLines isBreak => exact absurd isBreak oneLine
  | short | code =>
    rintro _ ⟨⟩
    decide

/-! ## Basic strings in one line -/

theorem Escape.basicString? {w : List Char} (h : Escape false c w) :
    basicString? (w ++ rest) = push c (basicString? rest) := by
  cases h with
  | plain plain notQuote notSlash =>
    rw [List.singleton_append, Toml.basicString?]
    · simp [plain, notSlash]
    all_goals simp_all
  | lineBreak inLines => cases inLines
  | short stands other =>
    simp only [List.cons_append, List.nil_append]
    rw [Toml.basicString?]
    · simp [stands]
    all_goals simp_all
  | code stands =>
    simp only [List.cons_append, List.nil_append]
    rw [Toml.basicString?, stands]
    rfl

theorem basicString?_escape (run : Nat) (cs : List Char) :
    basicString? (escape false run cs ++ '"' :: rest) = some (cs, rest) := by
  induction cs generalizing run with
  | nil => rfl
  | cons c cs ih =>
    have escaped {w : List Char} (hw : Escape false c w) :
        basicString? (w ++ (escape false 0 cs ++ '"' :: rest)) = some (c :: cs, rest) := by
      rw [hw.basicString?, ih]
      rfl
    by_cases hc : c = '"'
    · subst hc
      exact escaped (.short rfl (by decide))
    · rw [escape_cons hc, List.append_assoc]
      exact escaped (escape_escapeChar false hc)

/-! ## Quotes over several lines -/

/-- A string over several lines ends with three quotes, and up to two more may stand before them. -/
structure EndsWithThree (q : Char) (read : List Char → Option (List Char × List Char)) : Prop where
  inside {rest : List Char} (h : ∀ t, rest ≠ q :: q :: t) :
    read (q :: rest) = push q (read rest)
  none {rest : List Char} (h : ∀ t, rest ≠ q :: t) : read (q :: q :: q :: rest) = some ([], rest)
  one {rest : List Char} (h : ∀ t, rest ≠ q :: t) :
    read (q :: q :: q :: q :: rest) = some ([q], rest)
  two {rest : List Char} : read (q :: q :: q :: q :: q :: rest) = some ([q, q], rest)

namespace EndsWithThree

variable {read : List Char → Option (List Char × List Char)} {run : Nat}

/-- Up to two quotes are read as themselves in front of something else. -/
theorem replicate_append (ends : EndsWithThree q read) (hrun : run ≤ 2)
    (h : ∀ t, rest ≠ q :: t) (hread : read rest = some (cs, rest')) :
    read (List.replicate run q ++ rest) = some (List.replicate run q ++ cs, rest') := by
  have one : read (q :: rest) = push q (read rest) := ends.inside fun t => h _
  match run, hrun with
  | 0, _ => exact hread
  | 1, _ =>
    change read (q :: rest) = _
    rw [one, hread]
    rfl
  | 2, _ =>
    have apart : ∀ t, q :: rest ≠ q :: q :: t := fun t same => h t (List.cons.inj same).2
    change read (q :: q :: rest) = _
    rw [ends.inside apart, one, hread]
    rfl

theorem replicate_close (ends : EndsWithThree q read) (hrun : run ≤ 2) (h : ∀ t, rest ≠ q :: t) :
    read (List.replicate run q ++ q :: q :: q :: rest) = some (List.replicate run q, rest) :=
  match run, hrun with
  | 0, _ => ends.none h
  | 1, _ => ends.one h
  | 2, _ => ends.two

end EndsWithThree

theorem endsWithThree_basicLines? : EndsWithThree '"' (basicLines? false) where
  inside h := by
    rw [basicLines?]
    · simp [show isSpace '"' = false by decide, show isPlain '"' = true by decide]
    all_goals simp_all
  none h := by
    rw [basicLines?]
    all_goals simp_all
  one h := by
    rw [basicLines?]
    all_goals simp_all
  two {rest} := by
    unfold basicLines?
    rfl

theorem endsWithThree_literalLines? : EndsWithThree '\'' literalLines? where
  inside h := by
    rw [literalLines?]
    · simp [show isPlain '\'' = true by decide]
    all_goals simp_all
  none h := by
    rw [literalLines?]
    all_goals simp_all
  one h := by
    rw [literalLines?]
    all_goals simp_all
  two := rfl

/-! ## Basic strings over several lines -/

theorem Escape.basicLines? {w : List Char} (h : Escape true c w) :
    basicLines? false (w ++ rest) = push c (basicLines? false rest) := by
  cases h with
  | plain plain notQuote notSlash =>
    have notReturn : c ≠ '\x0d' := by
      rintro rfl
      exact absurd plain (by decide)
    rw [List.singleton_append, Toml.basicLines?]
    · simp [plain, notSlash]
    all_goals simp_all
  | lineBreak inLines isBreak =>
    subst isBreak
    rw [List.singleton_append, Toml.basicLines?]
    · simp
    all_goals simp
  | @short e stands other =>
    obtain ⟨notCode, notLongCode, notBreak, notReturn, notSpace⟩ := other
    have goesOn : endsLine (e :: rest) = false := by
      rw [endsLine, List.dropWhile_cons_of_neg (by simp [notSpace])]
      split <;> simp_all
    simp only [List.cons_append, List.nil_append]
    rw [Toml.basicLines?]
    · simp [stands, goesOn]
    all_goals simp_all
  | code stands =>
    simp only [List.cons_append, List.nil_append]
    rw [Toml.basicLines?, stands]
    rfl

/-- The inside of a basic string is read behind the quotes that stand before it in a row. -/
theorem basicLines?_escape {run : Nat} (hrun : run ≤ 2) (h : ∀ t, rest ≠ '"' :: t)
    (cs : List Char) :
    basicLines? false
      (List.replicate run '"' ++ (escape true run cs ++ '"' :: '"' :: '"' :: rest)) =
        some (List.replicate run '"' ++ cs, rest) := by
  induction cs generalizing run with
  | nil =>
    rw [escape, List.nil_append, List.append_nil]
    exact endsWithThree_basicLines?.replicate_close hrun h
  | cons c cs ih =>
    -- after any other character the count begins anew
    have escaped {w : List Char} (hw : Escape true c w) : basicLines? false
        (List.replicate run '"' ++ (w ++ (escape true 0 cs ++ '"' :: '"' :: '"' :: rest))) =
          some (List.replicate run '"' ++ c :: cs, rest) := by
      refine endsWithThree_basicLines?.replicate_append hrun hw.append_ne_quote ?_
      have ih := ih (Nat.zero_le 2)
      rw [List.replicate_zero, List.nil_append, List.nil_append] at ih
      rw [hw.basicLines?, ih]
      rfl
    by_cases hc : c = '"'
    · subst hc
      by_cases full : run = 2
      · subst full
        exact escaped (.short rfl (by decide))
      · have kept : escape true run ('"' :: cs) = '"' :: escape true (run + 1) cs := by
          have : run < 2 := by omega
          simp [escape, this]
        have ih := @ih (run + 1) (by omega)
        rw [List.replicate_succ', List.append_assoc, List.append_assoc] at ih
        rw [kept]
        exact ih
    · rw [escape_cons hc, List.append_assoc]
      exact escaped (escape_escapeChar true hc)

/-! ## Literal strings -/

theorem literalString?_append (h : ∀ c ∈ cs, isLiteral c) :
    literalString? (cs ++ '\'' :: rest) = some (cs, rest) := by
  induction cs with
  | nil => rfl
  | cons c cs ih =>
    obtain ⟨hc, hcs⟩ := List.forall_mem_cons.1 h
    have notQuote : c ≠ '\'' := by
      rintro rfl
      exact absurd hc (by decide)
    rw [List.cons_append, literalString?, if_pos hc, ih hcs]
    · rfl
    · exact notQuote

theorem le_longestRun (q : Char) (run : Nat) (cs : List Char) : run ≤ longestRun q run cs := by
  fun_induction longestRun q run cs <;> grind

theorem not_mem_of_longestRun_eq_zero {run : Nat} (h : longestRun q run cs = 0) : q ∉ cs := by
  fun_induction longestRun q run cs with
  | case1 => exact List.not_mem_nil
  | case2 run c cs same ih =>
    have := le_longestRun q (run + 1) cs
    omega
  | case3 run c cs other ih =>
    have other : q ≠ c := fun same => other (beq_iff_eq.2 same.symm)
    simpa [other] using ih (by omega)

/-- A text of plain characters and line breaks is read behind the quotes that stand before it in a
row, when there are never more than two. -/
theorem literalLines?_append {run : Nat} (h : ∀ t, rest ≠ '\'' :: t)
    (plain : ∀ c ∈ cs, isPlain c ∨ c = '\n') (few : longestRun '\'' run cs ≤ 2) :
    literalLines? (List.replicate run '\'' ++ (cs ++ '\'' :: '\'' :: '\'' :: rest)) =
      some (List.replicate run '\'' ++ cs, rest) := by
  have hrun := Nat.le_trans (le_longestRun _ _ _) few
  induction cs generalizing run with
  | nil =>
    rw [List.nil_append, List.append_nil]
    exact endsWithThree_literalLines?.replicate_close hrun h
  | cons c cs ih =>
    obtain ⟨hc, hcs⟩ := List.forall_mem_cons.1 plain
    rw [longestRun] at few
    by_cases quote : c = '\''
    · subst quote
      rw [if_pos (beq_self_eq_true _)] at few
      have ih := ih hcs few (Nat.le_trans (le_longestRun _ _ _) few)
      rw [List.replicate_succ', List.append_assoc, List.append_assoc] at ih
      exact ih
    · rw [if_neg (by simpa using quote)] at few
      have ih := ih hcs (Nat.le_trans (Nat.le_max_right _ _) few) (Nat.zero_le 2)
      rw [List.replicate_zero, List.nil_append, List.nil_append] at ih
      refine endsWithThree_literalLines?.replicate_append hrun (by simp [quote]) ?_
      have notReturn : c ≠ '\x0d' := by
        rintro rfl
        exact absurd hc (by decide)
      rw [List.cons_append, literalLines?, if_pos (by simpa using hc.symm), ih]
      · rfl
      all_goals simp_all

/-! ## Strings -/

namespace StringForm

/-- What a form asks of a text: a form without escapes holds it as it is. -/
def Holds (cs : List Char) : StringForm → Prop
  | basic | basicLines => True
  | literal => ∀ c ∈ cs, isLiteral c
  | literalLines => (∀ c ∈ cs, isPlain c ∨ c = '\n') ∧ longestRun '\'' 0 cs ≤ 2

theorem holds_ofChars (cs : List Char) : (ofChars cs).Holds cs := by
  unfold ofChars
  lift_lets
  intro breaks quotes apostrophes plain unescaped
  have chars (h : plain = true) : ∀ c ∈ cs, isPlain c ∨ c = '\n' := by
    simpa [plain] using h
  split
  · trivial
  split
  · next h =>
    simp only [Bool.and_eq_true, beq_iff_eq, Bool.not_eq_true'] at h
    obtain ⟨⟨hplain, none⟩, oneLine⟩ := h
    intro c hc
    have notQuote : c ≠ '\'' := fun same => not_mem_of_longestRun_eq_zero none (same ▸ hc)
    have notBreak : c ≠ '\n' := by
      rintro rfl
      simp [breaks, hc] at oneLine
    simpa [isLiteral, notQuote] using (chars hplain c hc).resolve_right notBreak
  split
  · trivial
  split
  · next h =>
    simp only [Bool.and_eq_true, decide_eq_true_eq] at h
    exact ⟨chars h.1, h.2⟩
  · split <;> trivial

theorem skipFirstBreak_eq_self (h : ∀ c ∈ cs.head?, isPlain c) : skipFirstBreak cs = cs := by
  unfold skipFirstBreak
  split
  · exact absurd (h _ rfl) (by decide)
  · exact absurd (h _ rfl) (by decide)
  · rfl

theorem isPlain_head?_escape (oneLine : '\n' ∉ cs) :
    ∀ c ∈ (escape true 0 cs ++ '"' :: rest).head?, isPlain c := by
  cases cs with
  | nil =>
    rintro _ ⟨⟩
    decide
  | cons c cs =>
    simp only [List.mem_cons, not_or] at oneLine
    by_cases hc : c = '"'
    · subst hc
      rintro _ ⟨⟩
      decide
    · rw [escape_cons hc, List.append_assoc]
      exact (escape_escapeChar true hc).isPlain_head? (Ne.symm oneLine.1)

/-- A line break behind the opening quotes is there just when the text has some. -/
theorem skipFirstBreak_start (h : '\n' ∉ cs → ∀ c ∈ rest.head?, isPlain c) :
    skipFirstBreak ((if cs.contains '\n' then ['\n'] else []) ++ rest) = rest := by
  split
  · rfl
  · next oneLine => exact skipFirstBreak_eq_self (h (by simpa using oneLine))

/-- A text is read in any form that holds it. -/
theorem string?_write {f : StringForm} (holds : f.Holds cs) (h : ∀ t, rest ≠ '"' :: t)
    (h' : ∀ t, rest ≠ '\'' :: t) : string? ((f.write cs).toList ++ rest) = some (cs, rest) := by
  rw [write, String.toList_ofList, List.append_assoc, List.append_assoc]
  cases f with
  | basic =>
    -- two quotes behind the first one would be those of an empty text and another one
    have apart : ∀ t, escape false 0 cs ++ '"' :: rest ≠ '"' :: '"' :: t := by
      intro t
      cases cs with
      | nil => simpa [escape] using h t
      | cons c cs =>
        by_cases hc : c = '"'
        · subst hc
          simp [escape]
        · rw [escape_cons hc, List.append_assoc]
          exact (escape_escapeChar false hc).append_ne_quote _
    change string? ('"' :: (escape false 0 cs ++ '"' :: rest)) = _
    rw [string?, basicString?_escape]
    exact apart
  | literal =>
    have apart : ∀ t, cs ++ '\'' :: rest ≠ '\'' :: '\'' :: t := by
      intro t
      cases cs with
      | nil => simpa using h' t
      | cons c cs =>
        have notQuote : c ≠ '\'' := by
          rintro rfl
          exact absurd (holds _ List.mem_cons_self) (by decide)
        simp [notQuote]
    change string? ('\'' :: (cs ++ '\'' :: rest)) = _
    rw [string?, literalString?_append holds]
    exact apart
  | basicLines =>
    have text := basicLines?_escape (Nat.zero_le 2) h cs
    change basicLines? false
      (skipFirstBreak ((_ ++ escape true 0 cs) ++ '"' :: '"' :: '"' :: rest)) = _
    rw [List.append_assoc, skipFirstBreak_start fun oneLine => isPlain_head?_escape oneLine]
    exact text
  | literalLines =>
    have text := literalLines?_append h' holds.1 holds.2
    have plain (oneLine : '\n' ∉ cs) :
        ∀ c ∈ (cs ++ '\'' :: '\'' :: '\'' :: rest).head?, isPlain c := by
      cases cs with
      | nil =>
        rintro _ ⟨⟩
        decide
      | cons c cs =>
        rintro _ ⟨⟩
        refine (holds.1 _ List.mem_cons_self).resolve_right ?_
        rintro rfl
        exact oneLine List.mem_cons_self
    change literalLines? (skipFirstBreak ((_ ++ cs) ++ '\'' :: '\'' :: '\'' :: rest)) = _
    rw [List.append_assoc, skipFirstBreak_start plain]
    exact text

end StringForm

/-- A string that is written is read up to its closing quotes. -/
theorem string?_quote (s : String) (h : ∀ t, rest ≠ '"' :: t) (h' : ∀ t, rest ≠ '\'' :: t) :
    string? ((quote s).toList ++ rest) = some (s.toList, rest) :=
  StringForm.string?_write (StringForm.holds_ofChars _) h h'

theorem quote_head? (s : String) : ∃ q t, (quote s).toList = q :: t ∧ (q = '"' ∨ q = '\'') := by
  rw [quote, StringForm.write, String.toList_ofList]
  cases StringForm.ofChars s.toList with
  | basic | basicLines => exact ⟨_, _, rfl, .inl rfl⟩
  | literal | literalLines => exact ⟨_, _, rfl, .inr rfl⟩

/-! ## Keys -/

/-- The first character of a key as it is written. -/
def StartsKey (c : Char) : Prop := c = '"' ∨ c = '\'' ∨ isBare c

theorem quoteKey_head? (k : String) : ∃ c t, (quoteKey k).toList = c :: t ∧ StartsKey c := by
  unfold quoteKey
  lift_lets
  intro cs
  split
  · next bare =>
    simp only [Bool.and_eq_true, Bool.not_eq_true', List.all_eq_true] at bare
    obtain ⟨c, t, h⟩ := List.exists_cons_of_ne_nil (l := cs) (by simpa using bare.1)
    exact ⟨c, t, h, .inr (.inr (bare.2 c (h ▸ List.mem_cons_self)))⟩
  · split
    · exact ⟨_, _, String.toList_ofList, .inr (.inl rfl)⟩
    · exact ⟨_, _, String.toList_ofList, .inl rfl⟩

/-- A key that is written is read up to a character that cannot go on in it. -/
theorem simpleKey?_quoteKey (k : String) (h : ∀ c ∈ rest.head?, isBare c = false) :
    simpleKey? ((quoteKey k).toList ++ rest) = some (k, rest) := by
  unfold quoteKey
  lift_lets
  intro cs
  split
  · next bare =>
    simp only [Bool.and_eq_true, Bool.not_eq_true', List.all_eq_true] at bare
    obtain ⟨c, t, ht⟩ := List.exists_cons_of_ne_nil (l := cs) (by simpa using bare.1)
    have hc : isBare c := bare.2 c (ht ▸ List.mem_cons_self)
    have notQuote : c ≠ '"' ∧ c ≠ '\'' := by
      constructor <;>
      · rintro rfl
        exact absurd hc (by decide)
    obtain ⟨taken, left⟩ := Text.span_append bare.2 h
    rw [simpleKey?, taken, left, if_neg (by simp [ht])]
    · simp [cs]
    all_goals
      intro t' same
      rw [show k.toList = c :: t from ht, List.cons_append, List.cons.injEq] at same
      simp_all
  split
  · next literal =>
    simp only [Bool.and_eq_true, List.all_eq_true] at literal
    have read : literalString? (cs ++ '\'' :: rest) = some (cs, rest) :=
      literalString?_append literal.2
    rw [StringForm.write, String.toList_ofList, List.append_assoc, List.append_assoc]
    change (literalString? (cs ++ '\'' :: rest)).map _ = _
    rw [read]
    simp [cs]
  · rw [StringForm.write, String.toList_ofList, List.append_assoc, List.append_assoc]
    change (basicString? (escape false 0 cs ++ '"' :: rest)).map _ = _
    rw [basicString?_escape]
    simp [cs]

end SchemaDelta.Toml

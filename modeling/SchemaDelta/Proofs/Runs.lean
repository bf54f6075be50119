import SchemaDelta.Text.Class

/-!
# Runs of characters

Where a run of characters of one class ends in a text, and how a run of ASCII digits and the number
that it writes determine each other up to leading zeros.

## Main definitions

* `Text.significant` — a run of digits without its leading zeros.
-/

namespace SchemaDelta.Text

variable {c : Char} {cs ds rest : List Char}

/-- A run of characters is told from what stands behind it by the first character that does not go
on in it. -/
theorem span_append {p : Char → Bool} (run : ∀ c ∈ cs, p c) (stop : ∀ c ∈ rest.head?, p c = false) :
    (cs ++ rest).takeWhile p = cs ∧ (cs ++ rest).dropWhile p = rest := by
  rw [List.takeWhile_append_of_pos run, List.dropWhile_append_of_pos run]
  cases rest with
  | nil => simp
  | cons c t => simp [stop c rfl]

/-! ## Numbers in digits -/

/-- The digits of a number without leading zeros; zero itself keeps one. -/
def significant (ds : List Char) : List Char :=
  match ds.dropWhile (· == '0') with
  | [] => ['0']
  | ds => ds

theorem isAnyDigit_of_isDigit (h : c.isDigit) : isAnyDigit c := by
  have ascii : 48 ≤ c.toNat ∧ c.toNat ≤ 57 := Char.isDigit_iff_toNat.1 h
  simp only [isAnyDigit, inRanges, digitRanges, List.any_cons, Bool.or_eq_true, Bool.and_eq_true,
    decide_eq_true_iff]
  exact .inl ascii

theorem digitChar_of_isDigit (h : c.isDigit) : (c.toNat - 48).digitChar = c := by
  have ascii : 48 ≤ c.toNat ∧ c.toNat ≤ 57 := Char.isDigit_iff_toNat.1 h
  apply Char.toNat_inj.1
  rw [Nat.toNat_digitChar_of_lt_ten (by omega)]
  omega

theorem digitsValue?_eq (ds : List Char) :
    digitsValue? ds = if ds.all Char.isDigit then some (Nat.ofDigitChars 10 ds 0) else none := by
  suffices h : ∀ start : Option Nat,
      ds.foldl (fun acc c => acc.bind fun v =>
        if c.isDigit then some (10 * v + (c.toNat - 48)) else none) start =
        if ds.all Char.isDigit then start.map (Nat.ofDigitChars 10 ds) else none by
    exact h (some 0)
  induction ds with
  | nil =>
    intro start
    cases start <;> simp
  | cons c ds ih =>
    intro start
    rw [List.foldl_cons, ih]
    cases start <;> by_cases hc : c.isDigit <;> simp [hc, Nat.ofDigitChars_cons]

/-- Digits behind a positive number continue its decimal form. -/
theorem toDigits_ofDigitChars_of_pos {n : Nat} (hn : 0 < n) (h : ∀ c ∈ ds, c.isDigit) :
    Nat.toDigits 10 (Nat.ofDigitChars 10 ds n) = Nat.toDigits 10 n ++ ds := by
  induction ds generalizing n with
  | nil => simp
  | cons c ds ih =>
    obtain ⟨hc, hds⟩ := List.forall_mem_cons.1 h
    have ascii : 48 ≤ c.toNat ∧ c.toNat ≤ 57 := Char.isDigit_iff_toNat.1 hc
    have small : c.toNat - 48 < 10 := by omega
    have last : Nat.toDigits 10 (10 * n + (c.toNat - 48)) = Nat.toDigits 10 n ++ [c] := by
      rw [← Nat.toDigits_append_toDigits (by decide) hn small, Nat.toDigits_of_lt_base small,
        digitChar_of_isDigit hc]
    calc
      Nat.toDigits 10 (Nat.ofDigitChars 10 (c :: ds) n)
        = Nat.toDigits 10 (Nat.ofDigitChars 10 ds (10 * n + (c.toNat - 48))) := by
          rw [Nat.ofDigitChars_cons]; rfl
      _ = Nat.toDigits 10 (10 * n + (c.toNat - 48)) ++ ds := ih (by omega) hds
      _ = Nat.toDigits 10 n ++ c :: ds := by simp [last]

/-- The decimal form of a number that is written in digits are the significant ones of them. -/
theorem toDigits_ofDigitChars (h : ∀ c ∈ ds, c.isDigit) :
    Nat.toDigits 10 (Nat.ofDigitChars 10 ds 0) = significant ds := by
  induction ds with
  | nil => rfl
  | cons c ds ih =>
    obtain ⟨hc, hds⟩ := List.forall_mem_cons.1 h
    have ascii : 48 ≤ c.toNat ∧ c.toNat ≤ 57 := Char.isDigit_iff_toNat.1 hc
    have small : c.toNat - 48 < 10 := by omega
    by_cases zero : c = '0'
    · subst zero
      exact ih hds
    · have positive : 0 < c.toNat - 48 := by
        have : c.toNat ≠ 48 := fun h => zero (Char.toNat_inj.1 h)
        omega
      have first : Nat.ofDigitChars 10 (c :: ds) 0 = Nat.ofDigitChars 10 ds (c.toNat - 48) := by
        simp [Nat.ofDigitChars_cons]
      rw [first, toDigits_ofDigitChars_of_pos positive hds, Nat.toDigits_of_lt_base small,
        digitChar_of_isDigit hc]
      simp [significant, zero]

theorem all_isDigit_toDigits (n : Nat) : (Nat.toDigits 10 n).all Char.isDigit :=
  List.all_eq_true.2 fun _ => Nat.isDigit_of_mem_toDigits (by decide) (by decide)

end SchemaDelta.Text

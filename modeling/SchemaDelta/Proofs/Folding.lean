import SchemaDelta.Dialect
import SchemaDelta.Proofs.Trim

/-!
# Case that is settled

A text in lower case is its own lowercase form, and a text in upper case its own uppercase form:
no image in a table of images has an image of its own there, and none is a capital sigma, the one
letter that is lowered by its neighbors. The tables are searched for this once, with the codes
that have an image written as the bits of one number.

## Main definitions

* `Settles` — a table of images none of which has an image.
* `Fixed` — a character that case leaves alone, as does every other one.
-/

namespace SchemaDelta

namespace Text

/-! ## Sets of codes -/

/-- The codes that a range lists. -/
def CaseRange.codes (r : CaseRange) : List Nat :=
  List.range' r.first ((r.last - r.first) / r.step + 1) r.step

theorem CaseRange.mem_codes_of_image? {r : CaseRange} {n m : Nat} (h : r.image? n = some m) :
    n ∈ r.codes ∧ m = (n + r.shift).toNat := by
  simp only [image?, Bool.and_eq_true, decide_eq_true_iff, beq_iff_eq,
    Option.ite_none_right_eq_some, Option.some.injEq] at h
  obtain ⟨⟨⟨low, high⟩, stride⟩, rfl⟩ := h
  refine ⟨List.mem_range'.2 ⟨(n - r.first) / r.step, ?_, ?_⟩, rfl⟩
  · have : (n - r.first) / r.step ≤ (r.last - r.first) / r.step := Nat.div_le_div_right (by omega)
    omega
  · rw [Nat.mul_div_cancel' (Nat.dvd_of_mod_eq_zero stride)]
    omega

/-- A set of codes as the bits of a number. -/
def bits (codes : List Nat) : Nat := codes.foldr (fun n set => 1 <<< n ||| set) 0

theorem testBit_bits {codes : List Nat} {n : Nat} : (bits codes).testBit n = true ↔ n ∈ codes := by
  induction codes with
  | nil => simp [bits]
  | cons m codes ih =>
    have first : (1 <<< m).testBit n = true ↔ n = m := by
      rw [Nat.one_shiftLeft, Nat.testBit_two_pow, decide_eq_true_iff, eq_comm]
    rw [bits, List.foldr_cons, Nat.testBit_or, Bool.or_eq_true, first, List.mem_cons, ← ih]
    rfl

/-- The codes that have an image, those of the ASCII letters among them, which no table holds. -/
def sources (letters : List Nat) (ranges : List CaseRange) (expansions : List (Nat × List Nat)) :
    List Nat :=
  letters ++ ranges.flatMap CaseRange.codes ++ expansions.map Prod.fst

/-- A table in which no image has an image. -/
structure Settles (letters : List Nat) (ranges : List CaseRange)
    (expansions : List (Nat × List Nat)) : Prop where
  positive : 0 ∉ letters
  shifted : ∀ r ∈ ranges, ∀ n ∈ r.codes,
    (bits (sources letters ranges expansions)).testBit (n + r.shift).toNat = false
  expanded : ∀ e ∈ expansions, ∀ m ∈ e.2,
    (bits (sources letters ranges expansions)).testBit m = false

theorem settles_lower : Settles (List.range' 65 26) lowerRanges lowerExpansions :=
  ⟨by decide, by decide +kernel, by decide +kernel⟩

theorem settles_upper : Settles (List.range' 97 26) upperRanges upperExpansions :=
  ⟨by decide, by decide +kernel, by decide +kernel⟩

/-! ## Images of images -/

section

variable {letters : List Nat} {ranges : List CaseRange} {expansions : List (Nat × List Nat)}
  {n m : Nat}

theorem mapCode_of_not_mem (h : n ∉ sources letters ranges expansions) :
    mapCode ranges expansions n = [n] := by
  have unshifted : ranges.findSome? (·.image? n) = none := by
    rw [List.findSome?_eq_none_iff]
    intro r hr
    rw [Option.eq_none_iff_forall_ne_some]
    intro m hm
    have listed := (CaseRange.mem_codes_of_image? hm).1
    grind [sources]
  have unexpanded : expansions.lookup n = none := by
    rw [List.lookup_eq_none_iff]
    intro e he
    grind [sources]
  simp [mapCode, unshifted, unexpanded]

namespace Settles

variable (settles : Settles letters ranges expansions)
include settles

/-- A code in an image is its own image, and that of no ASCII letter with another one. -/
theorem mapCode_of_mem (hn : n ∉ letters) (hm : m ∈ mapCode ranges expansions n) :
    mapCode ranges expansions m = [m] ∧ m ∉ letters := by
  have unlisted (h : (bits (sources letters ranges expansions)).testBit m = false) :
      mapCode ranges expansions m = [m] ∧ m ∉ letters := by
    rw [← Bool.not_eq_true, testBit_bits] at h
    exact ⟨mapCode_of_not_mem h, by grind [sources]⟩
  cases shifted : ranges.findSome? (·.image? n) with
  | some m' =>
    obtain ⟨r, hr, image⟩ := List.exists_of_findSome?_eq_some shifted
    obtain ⟨listed, rfl⟩ := CaseRange.mem_codes_of_image? image
    obtain rfl : m = (n + r.shift).toNat := by simpa [mapCode, shifted] using hm
    exact unlisted (settles.shifted r hr n listed)
  | none =>
    cases expanded : expansions.lookup n with
    | some image =>
      obtain ⟨before, after, split, -⟩ := List.lookup_eq_some_iff.1 expanded
      have listed : m ∈ image := by simpa [mapCode, shifted, expanded] using hm
      exact unlisted (settles.expanded (n, image) (by simp [split]) m listed)
    | none =>
      obtain rfl : m = n := by simpa [mapCode, shifted, expanded] using hm
      exact ⟨by simp [mapCode, shifted, expanded], hn⟩

/-- A character in an image is its own image. -/
theorem image_of_mem {flip : Char → Char} (hn : n ∉ letters)
    (ascii : ∀ c : Char, c.toNat < 128 → c.toNat ∉ letters → flip c = c) {x : Char}
    (hx : x ∈ (mapCode ranges expansions n).map Char.ofNat) :
    (if x.toNat < 128 then [flip x] else (mapCode ranges expansions x.toNat).map Char.ofNat) =
      [x] := by
  obtain ⟨m, hm, rfl⟩ := List.mem_map.1 hx
  obtain ⟨own, apart⟩ := settles.mapCode_of_mem hn hm
  have code : (Char.ofNat m).toNat = m ∨ (Char.ofNat m).toNat = 0 := by
    by_cases valid : m.isValidChar
    · exact .inl (by rw [show Char.ofNat m = Char.ofNatAux m valid from dif_pos valid]; rfl)
    · exact .inr (by rw [show Char.ofNat m = '\x00' from dif_neg valid]; rfl)
  split
  · next small =>
    rw [ascii _ small]
    rcases code with code | code <;> rw [code]
    · exact apart
    · exact settles.positive
  · next large =>
    have code : (Char.ofNat m).toNat = m := by omega
    rw [code, own, List.map_singleton]

end Settles

end

/-! ## Texts -/

variable {c x : Char} {before cs : List Char}

theorem lowerChar_of_mem_lowerChar (hx : x ∈ lowerChar c) : lowerChar x = [x] := by
  unfold lowerChar at hx
  split at hx
  · next hc =>
    obtain rfl := List.mem_singleton.1 hx
    simp [lowerChar, toNat_toLower_lt hc, toLower_toLower hc]
  · next hc =>
    refine settles_lower.image_of_mem ?_ ?_ hx
    · grind
    · intro c hc
      exact forall_ascii (q := fun c => c.toNat ∉ List.range' 65 26 → c.toLower = c) (by decide) hc

theorem upperChar_of_mem_upperChar (hx : x ∈ upperChar c) : upperChar x = [x] := by
  unfold upperChar at hx
  split at hx
  · next hc =>
    obtain rfl := List.mem_singleton.1 hx
    simp [upperChar, toNat_toUpper_lt hc, toUpper_toUpper hc]
  · next hc =>
    refine settles_upper.image_of_mem ?_ ?_ hx
    · grind
    · intro c hc
      exact forall_ascii (q := fun c => c.toNat ∉ List.range' 97 26 → c.toUpper = c) (by decide) hc

theorem lowerChar_of_mem_imageAt (hx : x ∈ imageAt before c cs) : lowerChar x = [x] := by
  unfold imageAt at hx
  split at hx
  · obtain rfl := List.mem_singleton.1 hx
    split <;> decide +kernel
  · exact lowerChar_of_mem_lowerChar hx

theorem lowerChar_of_mem_lowerFrom (hx : x ∈ lowerFrom before cs) : lowerChar x = [x] := by
  induction cs generalizing before with
  | nil => cases hx
  | cons c cs ih =>
    rw [lowerFrom_cons, List.mem_append] at hx
    exact hx.elim lowerChar_of_mem_imageAt ih

/-- Characters that are their own lowercase images are left as they are; a capital sigma is none of
them. -/
theorem lowerFrom_of_settled (h : ∀ c ∈ cs, lowerChar c = [c]) : lowerFrom before cs = cs := by
  induction cs generalizing before with
  | nil => rfl
  | cons c cs ih =>
    obtain ⟨hc, hcs⟩ := List.forall_mem_cons.1 h
    have not_sigma : c ≠ capitalSigma := by
      rintro rfl
      exact absurd hc (by decide +kernel)
    have image : imageAt before c cs = [c] := by simp [imageAt, not_sigma, hc]
    rw [lowerFrom_cons, image, ih hcs, List.singleton_append]

theorem lower_lower (s : String) : lower (lower s) = lower s := by
  simp only [lower, lowerChars, String.toList_ofList]
  rw [lowerFrom_of_settled fun _ => lowerChar_of_mem_lowerFrom]

theorem upper_upper (s : String) : upper (upper s) = upper s := by
  have images (c : Char) (hc : c ∈ upperChars s.toList) : upperChar c = [c] := by
    obtain ⟨c', -, hc⟩ := List.mem_flatMap.1 hc
    exact upperChar_of_mem_upperChar hc
  have fixed : upperChars (upperChars s.toList) = upperChars s.toList := by
    rw [upperChars, List.flatMap_congr images, List.flatMap_singleton']
  simp only [upper, String.toList_ofList, fixed]

/-! ## Characters without case -/

/-- A character that no change of case touches, and that is in the image of no other one. -/
structure Fixed (c : Char) : Prop where
  caseless : Caseless c
  upperChar_eq : upperChar c = [c]
  eq_of_mem_lowerChar : ∀ x, c ∈ lowerChar x → x = c
  eq_of_mem_upperChar : ∀ x, c ∈ upperChar x → x = c

/-- What no other character has in its image is seen in the tables and in the ASCII letters. -/
theorem Fixed.of_keeps (caseless : Caseless c) (upper : upperChar c = [c])
    (keepsLower : Keeps [c.toNat] lowerRanges lowerExpansions)
    (keepsUpper : Keeps [c.toNat] upperRanges upperExpansions)
    (asciiLower : ∀ n < 128, (Char.ofNat n).toLower.toNat ∈ [c.toNat] →
      (Char.ofNat n).toNat ∈ [c.toNat])
    (asciiUpper : ∀ n < 128, (Char.ofNat n).toUpper.toNat ∈ [c.toNat] →
      (Char.ofNat n).toNat ∈ [c.toNat]) : Fixed c where
  caseless := caseless
  upperChar_eq := upper
  eq_of_mem_lowerChar x h := by
    have code := keepsLower.mem_of_lowerChar asciiLower h List.mem_cons_self
    exact Char.toNat_inj.1 (List.mem_singleton.1 code)
  eq_of_mem_upperChar x h := by
    have code := keepsUpper.mem_of_upperChar asciiUpper h List.mem_cons_self
    exact Char.toNat_inj.1 (List.mem_singleton.1 code)

theorem fixed_comma : Fixed ',' :=
  .of_keeps ⟨by decide +kernel, by decide, by decide +kernel, by decide +kernel⟩ (by decide +kernel)
    ⟨by decide, by decide +kernel, by decide⟩ ⟨by decide, by decide +kernel, by decide⟩ (by decide)
    (by decide)

theorem fixed_parenthesis : Fixed '(' :=
  .of_keeps ⟨by decide +kernel, by decide, by decide +kernel, by decide +kernel⟩ (by decide +kernel)
    ⟨by decide, by decide +kernel, by decide⟩ ⟨by decide, by decide +kernel, by decide⟩ (by decide)
    (by decide)

/-- How often a character occurs in the image of one, when it is its own image and in no other. -/
theorem count_image {image : List Char} (own : x = c → image = [c]) (other : c ∈ image → x = c) :
    image.count c = [x].count c := by
  by_cases same : x = c
  · rw [own same, same]
  · rw [List.count_eq_zero_of_not_mem (mt other same), List.count_singleton, if_neg (by simpa)]

namespace Fixed

variable (h : Fixed c)
include h

theorem count_imageAt (before : List Char) (x : Char) (cs : List Char) :
    (imageAt before x cs).count c = [x].count c := by
  refine count_image (fun same => ?_) fun mem => ?_
  · rw [same, imageAt_of_caseless h.caseless]
  · unfold imageAt at mem
    split at mem
    · -- both forms of a small sigma have a case
      have uncased := h.caseless.uncased
      rw [List.mem_singleton.1 mem] at uncased
      split at uncased <;> exact absurd uncased (by decide +kernel)
    · exact h.eq_of_mem_lowerChar x mem

theorem count_lowerFrom (before cs : List Char) : (lowerFrom before cs).count c = cs.count c := by
  induction cs generalizing before with
  | nil => rfl
  | cons x cs ih =>
    rw [lowerFrom_cons, List.count_append, h.count_imageAt, ih, ← List.count_append,
      List.singleton_append]

theorem count_lower (s : String) : (lower s).toList.count c = s.toList.count c := by
  rw [lower, String.toList_ofList, lowerChars, h.count_lowerFrom]

theorem count_upper (s : String) : (upper s).toList.count c = s.toList.count c := by
  have image (x : Char) : (upperChar x).count c = [x].count c :=
    count_image (fun same => by rw [same, h.upperChar_eq]) (h.eq_of_mem_upperChar x)
  rw [upper, String.toList_ofList, upperChars]
  induction s.toList with
  | nil => rfl
  | cons x cs ih =>
    rw [List.flatMap_cons, List.count_append, image, ih, ← List.count_append, List.singleton_append]

end Fixed

end Text

/-! ## The case of a dialect -/

namespace NameCase

theorem apply_apply (c : NameCase) (s : String) : c.apply (c.apply s) = c.apply s := by
  cases c with
  | asWritten => rfl
  | upper => exact Text.upper_upper s
  | lower => exact Text.lower_lower s

/-- Names that are put in a case other than upper case are lowered as they were. -/
theorem lower_apply_of_ne {c : NameCase} (h : c ≠ .upper) (s : String) :
    Text.lower (c.apply s) = Text.lower s := by
  cases c with
  | asWritten => rfl
  | upper => exact absurd rfl h
  | lower => exact Text.lower_lower s

theorem count_apply {x : Char} (h : Text.Fixed x) (c : NameCase) (s : String) :
    (c.apply s).toList.count x = s.toList.count x := by
  cases c with
  | asWritten => rfl
  | upper => exact h.count_upper s
  | lower => exact h.count_lower s

end NameCase

namespace Dialect

/-- Lowering tells corrected names apart as it does the names themselves, but for those that the
dialect has in upper case. -/
theorem lower_correctName_of_case {d : Dialect} (h : d.caseSensitive = true ∨ d.nameCase ≠ .upper)
    (s : String) : Text.lower (d.correctName s) = Text.lower s := by
  unfold correctName
  split
  · rfl
  · next insensitive => exact NameCase.lower_apply_of_ne (h.resolve_left insensitive) s

end Dialect

end SchemaDelta

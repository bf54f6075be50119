import Mathlib.Data.List.DropRight
import SchemaDelta.Proofs.Ascii

/-!
# Trimming and case

It makes no difference whether the blanks around a text are taken away before or after
the text is put in lower or upper case. A blank is its own image and no other character
has a blank in its image; and since a blank is neither cased nor passed over, the blanks
around a text do not decide whether a capital sigma in it is final.
-/

namespace SchemaDelta.Text

variable {c x : Char} {cs before : List Char}

/-- The codes of the blank characters. -/
def blankCodes : List Nat :=
  [9, 10, 11, 12, 13, 0x20, 0x85, 0xa0, 0x1680, 0x2000, 0x2001, 0x2002, 0x2003, 0x2004, 0x2005,
   0x2006, 0x2007, 0x2008, 0x2009, 0x200a, 0x2028, 0x2029, 0x202f, 0x205f, 0x3000]

theorem isBlank_iff : isBlank c ↔ c.toNat ∈ blankCodes := by
  simp only [isBlank, blankCodes, Bool.or_eq_true, Bool.and_eq_true, decide_eq_true_iff, beq_iff_eq,
    List.mem_cons, List.not_mem_nil, or_false]
  omega

/-- What holds of every blank code holds of every blank character. -/
theorem forall_blank {q : Char → Prop} (h : ∀ n ∈ blankCodes, q (Char.ofNat n))
    (hc : isBlank c) : q c := by
  rw [← Char.ofNat_toNat c]
  exact h _ (isBlank_iff.1 hc)

/-! ## Images of characters -/

/-- A character that is its own lowercase image, has no case, and ends the look for one that has. -/
structure Caseless (c : Char) : Prop where
  image : lowerChar c = [c]
  not_sigma : c ≠ capitalSigma
  counts : inRanges ignorableRanges c.toNat = false
  uncased : inRanges casedRanges c.toNat = false

theorem Caseless.startsCased (h : Caseless c) (cs : List Char) : startsCased (c :: cs) = false := by
  simp [Text.startsCased, h.counts, h.uncased]

theorem caseless_of_isBlank (h : isBlank c) : Caseless c where
  image := forall_blank (q := fun c => lowerChar c = [c]) (by decide +kernel) h
  not_sigma := forall_blank (q := fun c => c ≠ capitalSigma) (by decide) h
  counts := forall_blank (q := fun c => inRanges ignorableRanges c.toNat = false)
    (by decide +kernel) h
  uncased := forall_blank (q := fun c => inRanges casedRanges c.toNat = false) (by decide +kernel) h

/-- A table of images that has no image for some codes and none without characters, and in which
no other character has one of these codes in its image. -/
structure Keeps (codes : List Nat) (ranges : List CaseRange) (expansions : List (Nat × List Nat)) :
    Prop where
  positive : ∀ b ∈ codes, 0 < b
  apart : ∀ r ∈ ranges, ∀ b ∈ codes, (b : Int) < r.first + r.shift ∨ r.last + r.shift < b
  images : ∀ e ∈ expansions, e.2 ≠ [] ∧ ∀ n ∈ e.2, n ∉ codes

theorem keepsBlanks_lower : Keeps blankCodes lowerRanges lowerExpansions :=
  ⟨by decide, by decide +kernel, by decide⟩

theorem keepsBlanks_upper : Keeps blankCodes upperRanges upperExpansions :=
  ⟨by decide, by decide +kernel, by decide +kernel⟩

namespace Keeps

variable {codes : List Nat} {ranges : List CaseRange} {expansions : List (Nat × List Nat)}

section

variable (keeps : Keeps codes ranges expansions)
include keeps

/-- A range covers no code when its images begin and end on one side of every code. -/
theorem not_mem_of_image {r : CaseRange} (hr : r ∈ ranges) {n m : Nat} (h : r.image? n = some m) :
    m ∉ codes := by
  intro hm
  have apart := keeps.apart r hr m hm
  have positive := keeps.positive m hm
  simp only [CaseRange.image?, Bool.and_eq_true, decide_eq_true_iff, beq_iff_eq,
    Option.ite_none_right_eq_some, Option.some.injEq] at h
  omega

theorem mem_expansions {n : Nat} {image : List Nat} (h : expansions.lookup n = some image) :
    image ≠ [] ∧ ∀ m ∈ image, m ∉ codes := by
  obtain ⟨l₁, l₂, heq, -⟩ := List.lookup_eq_some_iff.1 h
  exact keeps.images (n, image) (heq ▸ List.mem_append_right _ List.mem_cons_self)

theorem mapCode_ne_nil (n : Nat) : mapCode ranges expansions n ≠ [] := by
  unfold mapCode
  split
  · simp
  · cases hl : expansions.lookup n with
    | none => simp
    | some image => simpa using (keeps.mem_expansions hl).1

theorem not_mem_of_mapCode {n m : Nat} (hn : n ∉ codes) (hm : m ∈ mapCode ranges expansions n) :
    m ∉ codes := by
  unfold mapCode at hm
  split at hm
  · next m' hm' =>
    obtain ⟨r, hr, hm'⟩ := List.exists_of_findSome?_eq_some hm'
    obtain rfl := List.mem_singleton.1 hm
    exact keeps.not_mem_of_image hr hm'
  · cases hl : expansions.lookup n with
    | none =>
      rw [hl] at hm
      obtain rfl := List.mem_singleton.1 hm
      exact hn
    | some image =>
      rw [hl] at hm
      exact (keeps.mem_expansions hl).2 m hm

theorem not_mem_ofNat {n : Nat} (hn : n ∉ codes) : (Char.ofNat n).toNat ∉ codes := by
  by_cases valid : n.isValidChar
  · have written : Char.ofNat n = Char.ofNatAux n valid := dif_pos valid
    rw [written]
    exact hn
  · rw [show Char.ofNat n = '\x00' from dif_neg valid]
    exact fun h => Nat.lt_irrefl 0 (keeps.positive 0 h)

theorem mem_of_image (hx : x ∈ (mapCode ranges expansions c.toNat).map Char.ofNat)
    (h : x.toNat ∈ codes) : c.toNat ∈ codes := by
  by_contra hc
  obtain ⟨n, hn, rfl⟩ := List.mem_map.1 hx
  exact keeps.not_mem_ofNat (keeps.not_mem_of_mapCode hc hn) h

end

/-- Only a character with one of the codes has such a character in its lowercase image. -/
theorem mem_of_lowerChar (keeps : Keeps codes lowerRanges lowerExpansions)
    (ascii : ∀ n < 128, (Char.ofNat n).toLower.toNat ∈ codes → (Char.ofNat n).toNat ∈ codes)
    (hx : x ∈ lowerChar c) (h : x.toNat ∈ codes) : c.toNat ∈ codes := by
  unfold lowerChar at hx
  split at hx
  · next hc =>
    obtain rfl := List.mem_singleton.1 hx
    exact forall_ascii (q := fun c => c.toLower.toNat ∈ codes → c.toNat ∈ codes) ascii hc h
  · exact keeps.mem_of_image hx h

/-- Only a character with one of the codes has such a character in its uppercase image. -/
theorem mem_of_upperChar (keeps : Keeps codes upperRanges upperExpansions)
    (ascii : ∀ n < 128, (Char.ofNat n).toUpper.toNat ∈ codes → (Char.ofNat n).toNat ∈ codes)
    (hx : x ∈ upperChar c) (h : x.toNat ∈ codes) : c.toNat ∈ codes := by
  unfold upperChar at hx
  split at hx
  · next hc =>
    obtain rfl := List.mem_singleton.1 hx
    exact forall_ascii (q := fun c => c.toUpper.toNat ∈ codes → c.toNat ∈ codes) ascii hc h
  · exact keeps.mem_of_image hx h

end Keeps

theorem isBlank_of_mem_lowerChar (hx : x ∈ lowerChar c) (h : isBlank x) : isBlank c :=
  isBlank_iff.2 (keepsBlanks_lower.mem_of_lowerChar (by decide) hx (isBlank_iff.1 h))

theorem lowerChar_ne_nil (c : Char) : lowerChar c ≠ [] := by
  unfold lowerChar
  split
  · simp
  · simpa using keepsBlanks_lower.mapCode_ne_nil c.toNat

theorem upperChar_of_isBlank (h : isBlank c) : upperChar c = [c] :=
  forall_blank (q := fun c => upperChar c = [c]) (by decide +kernel) h

theorem isBlank_of_mem_upperChar (hx : x ∈ upperChar c) (h : isBlank x) : isBlank c :=
  isBlank_iff.2 (keepsBlanks_upper.mem_of_upperChar (by decide) hx (isBlank_iff.1 h))

theorem upperChar_ne_nil (c : Char) : upperChar c ≠ [] := by
  unfold upperChar
  split
  · simp
  · simpa using keepsBlanks_upper.mapCode_ne_nil c.toNat

/-! ## Texts -/

/-- What does not begin with a case does not decide whether the first that counts has one. -/
theorem startsCased_append {after : List Char} (cs : List Char) (h : startsCased after = false) :
    startsCased (cs ++ after) = startsCased cs := by
  induction cs with
  | nil => exact h
  | cons c cs ih =>
    unfold startsCased at ih ⊢
    cases hc : inRanges ignorableRanges c.toNat <;> simp [hc, ih]

/-- The image of a character in its place. -/
def imageAt (before : List Char) (c : Char) (rest : List Char) : List Char :=
  if c == capitalSigma then
    [Char.ofNat (if startsCased before && !startsCased rest then 0x3c2 else 0x3c3)]
  else lowerChar c

theorem lowerFrom_cons (before : List Char) (c : Char) (cs : List Char) :
    lowerFrom before (c :: cs) = imageAt before c cs ++ lowerFrom (c :: before) cs := rfl

theorem imageAt_of_caseless (h : Caseless c) (before cs : List Char) :
    imageAt before c cs = [c] := by
  simp [imageAt, h.not_sigma, h.image]

theorem imageAt_ne_nil (before : List Char) (c : Char) (cs : List Char) :
    imageAt before c cs ≠ [] := by
  unfold imageAt
  split
  · simp
  · exact lowerChar_ne_nil c

theorem not_isBlank_of_mem_imageAt (hc : ¬isBlank c) (hx : x ∈ imageAt before c cs) :
    ¬isBlank x := by
  unfold imageAt at hx
  split at hx
  · obtain rfl := List.mem_singleton.1 hx
    split <;> decide
  · exact fun h => hc (isBlank_of_mem_lowerChar hx h)

/-- What has no case in front of a text does not change the images in it. -/
theorem lowerFrom_append_left {front : List Char} (before cs : List Char)
    (h : startsCased front = false) : lowerFrom (before ++ front) cs = lowerFrom before cs := by
  induction cs generalizing before with
  | nil => rfl
  | cons c cs ih =>
    have image : imageAt (before ++ front) c cs = imageAt before c cs := by
      simp only [imageAt, startsCased_append before h]
    rw [lowerFrom_cons, lowerFrom_cons, image, ← List.cons_append, ih]

/-- A character without case parts a text into two whose images do not depend on each other. -/
theorem lowerFrom_append_caseless (h : Caseless c) (before cs rest : List Char) :
    lowerFrom before (cs ++ c :: rest) = lowerFrom before cs ++ c :: lowerFrom [] rest := by
  induction cs generalizing before with
  | nil =>
    have after : lowerFrom (c :: before) rest = lowerFrom [] rest :=
      lowerFrom_append_left [] rest (h.startsCased before)
    rw [List.nil_append, lowerFrom_cons, imageAt_of_caseless h, after, lowerFrom, List.nil_append,
      List.singleton_append]
  | cons d cs ih =>
    have image : imageAt before d (cs ++ c :: rest) = imageAt before d cs := by
      simp only [imageAt, startsCased_append cs (h.startsCased rest)]
    rw [List.cons_append, lowerFrom_cons, lowerFrom_cons, image, ih, List.append_assoc]

/-- The image of a text that does not end in a blank does not end in one. -/
theorem exists_lowerFrom_concat (before cs : List Char) (h : ¬isBlank c) :
    ∃ images x, lowerFrom before (cs ++ [c]) = images ++ [x] ∧ ¬isBlank x := by
  induction cs generalizing before with
  | nil =>
    have ne := imageAt_ne_nil before c []
    refine ⟨(imageAt before c []).dropLast, (imageAt before c []).getLast ne, ?_,
      not_isBlank_of_mem_imageAt h (List.getLast_mem ne)⟩
    rw [List.nil_append, lowerFrom_cons, lowerFrom, List.append_nil, List.dropLast_concat_getLast]
  | cons d cs ih =>
    obtain ⟨images, x, heq, hx⟩ := ih (d :: before)
    exact ⟨imageAt before d (cs ++ [c]) ++ images, x,
      by rw [List.cons_append, lowerFrom_cons, heq, List.append_assoc], hx⟩

theorem dropWhile_lowerFrom (cs : List Char) :
    (lowerFrom [] cs).dropWhile isBlank = lowerFrom [] (cs.dropWhile isBlank) := by
  induction cs with
  | nil => rfl
  | cons c cs ih =>
    by_cases hc : isBlank c
    · have parted : lowerFrom [] (c :: cs) = c :: lowerFrom [] cs :=
        lowerFrom_append_caseless (caseless_of_isBlank hc) [] [] cs
      rw [parted, List.dropWhile_cons_of_pos hc, List.dropWhile_cons_of_pos hc, ih]
    · rw [List.dropWhile_cons_of_neg hc, lowerFrom_cons]
      obtain ⟨x, xs, himage⟩ := List.exists_cons_of_ne_nil (imageAt_ne_nil [] c cs)
      have hx : ¬isBlank x := not_isBlank_of_mem_imageAt hc (himage ▸ List.mem_cons_self)
      rw [himage, List.cons_append, List.dropWhile_cons_of_neg hx]

theorem rdropWhile_lowerFrom (before cs : List Char) :
    (lowerFrom before cs).rdropWhile isBlank = lowerFrom before (cs.rdropWhile isBlank) := by
  induction cs using List.reverseRecOn with
  | nil => rfl
  | append_singleton cs c ih =>
    by_cases hc : isBlank c
    · have parted : lowerFrom before (cs ++ [c]) = lowerFrom before cs ++ [c] :=
        lowerFrom_append_caseless (caseless_of_isBlank hc) before cs []
      rw [parted, List.rdropWhile_concat_pos _ _ _ hc, List.rdropWhile_concat_pos _ _ _ hc, ih]
    · obtain ⟨images, x, heq, hx⟩ := exists_lowerFrom_concat before cs hc
      rw [List.rdropWhile_concat_neg _ _ _ hc, heq, List.rdropWhile_concat_neg _ _ _ hx]

theorem dropWhile_upperChars (cs : List Char) :
    (upperChars cs).dropWhile isBlank = upperChars (cs.dropWhile isBlank) := by
  induction cs with
  | nil => rfl
  | cons c cs ih =>
    rw [upperChars, List.flatMap_cons]
    by_cases hc : isBlank c
    · rw [upperChar_of_isBlank hc, List.singleton_append, List.dropWhile_cons_of_pos hc,
        List.dropWhile_cons_of_pos hc]
      exact ih
    · obtain ⟨x, xs, himage⟩ := List.exists_cons_of_ne_nil (upperChar_ne_nil c)
      have hx : ¬isBlank x :=
        fun h => hc (isBlank_of_mem_upperChar (himage ▸ List.mem_cons_self) h)
      rw [List.dropWhile_cons_of_neg hc, himage, List.cons_append, List.dropWhile_cons_of_neg hx,
        upperChars, List.flatMap_cons, himage, List.cons_append]

theorem rdropWhile_upperChars (cs : List Char) :
    (upperChars cs).rdropWhile isBlank = upperChars (cs.rdropWhile isBlank) := by
  induction cs using List.reverseRecOn with
  | nil => rfl
  | append_singleton cs c ih =>
    have split : upperChars (cs ++ [c]) = upperChars cs ++ upperChar c := by
      simp [upperChars]
    by_cases hc : isBlank c
    · rw [split, upperChar_of_isBlank hc, List.rdropWhile_concat_pos _ _ _ hc,
        List.rdropWhile_concat_pos _ _ _ hc, ih]
    · have ne := upperChar_ne_nil c
      have hx : ¬isBlank ((upperChar c).getLast ne) :=
        fun h => hc (isBlank_of_mem_upperChar (List.getLast_mem ne) h)
      rw [List.rdropWhile_concat_neg _ _ _ hc, split, ← List.dropLast_concat_getLast ne,
        ← List.append_assoc, List.rdropWhile_concat_neg _ _ _ hx]

theorem trimChars_eq (cs : List Char) :
    trimChars cs = (cs.dropWhile isBlank).rdropWhile isBlank := rfl

/-- What is trimmed away are the blanks at the ends. -/
theorem exists_trimChars (cs : List Char) : ∃ lead gap,
    cs = lead ++ trimChars cs ++ gap ∧ (∀ c ∈ lead, isBlank c) ∧ (∀ c ∈ gap, isBlank c) := by
  refine ⟨cs.takeWhile isBlank, (cs.dropWhile isBlank).rtakeWhile isBlank, ?_, ?_, ?_⟩
  · rw [trimChars_eq, List.append_assoc, List.rdropWhile_append_rtakeWhile,
      List.takeWhile_append_dropWhile]
  · exact fun c hc => List.mem_takeWhile_imp hc
  · exact fun c hc => List.mem_rtakeWhile_imp hc

/-- No blank is left at either end. -/
theorem ends_trimChars (cs : List Char) :
    (∀ c ∈ (trimChars cs).head?, ¬isBlank c) ∧ ∀ c ∈ (trimChars cs).getLast?, ¬isBlank c := by
  constructor
  · intro c hc
    obtain ⟨rest, split⟩ := List.rdropWhile_prefix isBlank (cs.dropWhile isBlank)
    have first : (cs.dropWhile isBlank).head? = some c := by
      rw [← split, ← trimChars_eq, List.head?_append, hc, Option.some_or]
    have := List.head?_dropWhile_not isBlank cs
    simpa [first] using this
  · intro c hc
    have ne : trimChars cs ≠ [] := List.ne_nil_of_mem (List.mem_of_getLast? hc)
    rw [← List.getLast_of_getLast?_eq_some hc]
    exact List.rdropWhile_last_not isBlank _ ne

theorem trimChars_of_ends (head : ∀ c ∈ cs.head?, ¬isBlank c)
    (last : ∀ c ∈ cs.getLast?, ¬isBlank c) : trimChars cs = cs := by
  cases cs with
  | nil => rfl
  | cons c cs =>
    rw [trimChars_eq, List.dropWhile_cons_of_neg (head c rfl), List.rdropWhile_eq_self_iff]
    exact fun ne => last _ (List.getLast?_eq_some_getLast ne)

theorem trimChars_trimChars (cs : List Char) : trimChars (trimChars cs) = trimChars cs :=
  trimChars_of_ends (ends_trimChars cs).1 (ends_trimChars cs).2

theorem trim_trim (s : String) : trim (trim s) = trim s := by
  simp only [trim, String.toList_ofList, trimChars_trimChars]

/-- Trimming a text before or after raising its case gives the same text. -/
theorem trim_upper (s : String) : trim (upper s) = upper (trim s) := by
  simp only [trim, upper, String.toList_ofList, trimChars_eq, dropWhile_upperChars,
    rdropWhile_upperChars]

/-- Trimming a text before or after lowering its case gives the same text. -/
theorem trim_lower (s : String) : trim (lower s) = lower (trim s) := by
  simp only [trim, lower, String.toList_ofList, trimChars_eq, lowerChars, dropWhile_lowerFrom,
    rdropWhile_lowerFrom]

end SchemaDelta.Text

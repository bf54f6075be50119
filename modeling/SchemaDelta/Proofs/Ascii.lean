import SchemaDelta.Text.Case

/-!
# Case of ASCII texts

On ASCII texts changing case is changing it character by character: no image is longer
than its character, none depends on its neighbors, and raising a text before lowering it
makes no difference.
-/

namespace SchemaDelta.Text

/-- Only ASCII characters occur. -/
def Ascii (s : String) : Prop := ∀ c ∈ s.toList, c.toNat < 128

instance (s : String) : Decidable (Ascii s) :=
  List.decidableBAll (fun c : Char => c.toNat < 128) s.toList

/-- What holds of the first 128 characters holds of every ASCII character. -/
theorem forall_ascii {q : Char → Prop} (h : ∀ n < 128, q (Char.ofNat n)) {c : Char}
    (hc : c.toNat < 128) : q c := by
  rw [← Char.ofNat_toNat c]
  exact h _ hc

theorem toLower_toUpper {c : Char} (h : c.toNat < 128) : c.toUpper.toLower = c.toLower :=
  forall_ascii (q := fun c => c.toUpper.toLower = c.toLower) (by decide) h

theorem toLower_toLower {c : Char} (h : c.toNat < 128) : c.toLower.toLower = c.toLower :=
  forall_ascii (q := fun c => c.toLower.toLower = c.toLower) (by decide) h

theorem toUpper_toUpper {c : Char} (h : c.toNat < 128) : c.toUpper.toUpper = c.toUpper :=
  forall_ascii (q := fun c => c.toUpper.toUpper = c.toUpper) (by decide) h

theorem toNat_toUpper_lt {c : Char} (h : c.toNat < 128) : c.toUpper.toNat < 128 :=
  forall_ascii (q := fun c => c.toUpper.toNat < 128) (by decide) h

theorem toNat_toLower_lt {c : Char} (h : c.toNat < 128) : c.toLower.toNat < 128 :=
  forall_ascii (q := fun c => c.toLower.toNat < 128) (by decide) h

variable {s t : String}

theorem lowerFrom_of_ascii {before cs : List Char} (h : ∀ c ∈ cs, c.toNat < 128) :
    lowerFrom before cs = cs.map Char.toLower := by
  induction cs generalizing before with
  | nil => rfl
  | cons c cs ih =>
    obtain ⟨hc, hcs⟩ := List.forall_mem_cons.1 h
    have hsigma : c ≠ capitalSigma := by
      rintro rfl
      exact absurd hc (by decide)
    rw [lowerFrom, ih hcs]
    simp [hsigma, lowerChar, hc]

theorem lower_of_ascii (h : Ascii s) : lower s = String.ofList (s.toList.map Char.toLower) := by
  rw [lower, lowerChars, lowerFrom_of_ascii h]

theorem flatMap_upperChar_of_ascii {cs : List Char} (h : ∀ c ∈ cs, c.toNat < 128) :
    cs.flatMap upperChar = cs.map Char.toUpper := by
  induction cs with
  | nil => rfl
  | cons c cs ih =>
    obtain ⟨hc, hcs⟩ := List.forall_mem_cons.1 h
    rw [List.flatMap_cons, ih hcs]
    simp [upperChar, hc]

theorem upper_of_ascii (h : Ascii s) : upper s = String.ofList (s.toList.map Char.toUpper) := by
  rw [upper, upperChars, flatMap_upperChar_of_ascii h]

theorem ascii_upper (h : Ascii s) : Ascii (upper s) := by
  rw [upper_of_ascii h, Ascii, String.toList_ofList]
  exact List.forall_mem_map.2 fun c hc => toNat_toUpper_lt (h c hc)

theorem lower_upper (h : Ascii s) : lower (upper s) = lower s := by
  rw [lower_of_ascii (ascii_upper h), upper_of_ascii h, lower_of_ascii h, String.toList_ofList,
    List.map_map]
  exact congrArg String.ofList (List.map_congr_left fun c hc => toLower_toUpper (h c hc))

theorem ascii_append (hs : Ascii s) (ht : Ascii t) : Ascii (s ++ t) := by
  rw [Ascii, String.toList_append]
  exact List.forall_mem_append.2 ⟨hs, ht⟩

theorem lower_append (hs : Ascii s) (ht : Ascii t) : lower (s ++ t) = lower s ++ lower t := by
  rw [lower_of_ascii (ascii_append hs ht), lower_of_ascii hs, lower_of_ascii ht,
    String.toList_append, List.map_append, String.ofList_append]

/-- ASCII texts that are equal up to case. -/
structure SameAscii (s t : String) : Prop where
  left : Ascii s
  right : Ascii t
  lower_eq : lower s = lower t

theorem SameAscii.refl (h : Ascii s) : SameAscii s s := ⟨h, h, rfl⟩

theorem SameAscii.append {s' t' : String} (h : SameAscii s t) (h' : SameAscii s' t') :
    SameAscii (s ++ s') (t ++ t') :=
  ⟨ascii_append h.left h'.left, ascii_append h.right h'.right,
    by rw [lower_append h.left h'.left, lower_append h.right h'.right, h.lower_eq, h'.lower_eq]⟩

end SchemaDelta.Text

import Mathlib.Data.List.Forall2

/-!
# Computations that can fail

When a sequence of steps, a traversal of a list, or a fold succeeds, and with what errors it
fails, in terms of its single steps.
-/

namespace SchemaDelta.Fallible

variable {ε α β : Type}

@[simp] theorem pure_eq_ok {a b : α} : (pure a : Except ε α) = .ok b ↔ a = b := by
  simp [pure, Except.pure]

@[simp] theorem ok_bind (a : α) (f : α → Except ε β) : (Except.ok a >>= f) = f a := rfl

@[simp] theorem error_bind (e : ε) (f : α → Except ε β) : (Except.error e >>= f) = .error e := rfl

@[simp] theorem map_ok (a : α) (f : α → β) : (Except.ok a : Except ε α).map f = .ok (f a) := rfl

@[simp] theorem map_error (e : ε) (f : α → β) : (Except.error e).map f = .error e := rfl

theorem pure_eq (a : α) : (pure a : Except ε α) = .ok a := rfl

theorem exists_eq_ok_of_isOk {x : Except ε α} (h : x.isOk) : ∃ a, x = .ok a := by
  cases x with
  | error => cases h
  | ok a => exact ⟨a, rfl⟩

/-- Two steps succeed exactly when the first does and then the second on its result. -/
@[simp] theorem bind_eq_ok {x : Except ε α} {f : α → Except ε β} {b : β} :
    (x >>= f) = .ok b ↔ ∃ a, x = .ok a ∧ f a = .ok b := by
  cases x <;> simp

@[simp] theorem map_eq_ok {x : Except ε α} {f : α → β} {b : β} :
    x.map f = .ok b ↔ ∃ a, x = .ok a ∧ f a = b := by
  cases x <;> simp [Except.map]

theorem exists_map_iff {x : Except ε α} {f : α → β} :
    (∃ b, x.map f = .ok b) ↔ ∃ a, x = .ok a := by
  cases x <;> simp

/-- Two steps succeed exactly when both can. -/
theorem exists_bind_iff {p q : Prop} {x : Except ε α} {f : α → Except ε β}
    (hx : (∃ a, x = .ok a) ↔ p) (hf : ∀ a, x = .ok a → ((∃ b, f a = .ok b) ↔ q)) :
    (∃ b, (x >>= f) = .ok b) ↔ p ∧ q := by
  cases x with
  | error => simp [← hx]
  | ok a => simp [← hx, ← hf a rfl]

theorem exists_bind_pure_iff {p : Prop} {x : Except ε α} {f : α → β}
    (hx : (∃ a, x = .ok a) ↔ p) : (∃ b, (x >>= fun a => pure (f a)) = .ok b) ↔ p := by
  cases x <;> simp [← hx]

theorem map_map {γ : Type} (g : β → γ) (f : α → β) (x : Except ε α) :
    (x.map f).map g = x.map (g ∘ f) := by
  cases x <;> rfl

/-- A traversal succeeds exactly when it does element by element. -/
theorem mapM_eq_ok {f : α → Except ε β} {xs : List α} {ys : List β} :
    xs.mapM f = .ok ys ↔ List.Forall₂ (fun x y => f x = .ok y) xs ys := by
  induction xs generalizing ys with
  | nil => cases ys <;> simp [pure, Except.pure]
  | cons x xs ih =>
    simp only [List.mapM_cons, bind_eq_ok, pure_eq_ok, ih]
    constructor
    · rintro ⟨y, hy, ys, hys, rfl⟩
      exact .cons hy hys
    · rintro (_ | ⟨hy, hys⟩)
      exact ⟨_, hy, _, hys, rfl⟩

theorem exists_of_mem_mapM {f : α → Except ε β} {xs : List α} {ys : List β}
    (h : xs.mapM f = .ok ys) {y : β} (hy : y ∈ ys) : ∃ x ∈ xs, f x = .ok y := by
  obtain ⟨i, hi, rfl⟩ := List.mem_iff_getElem.1 hy
  have steps := mapM_eq_ok.1 h
  have hi' : i < xs.length := steps.length_eq ▸ hi
  exact ⟨xs[i], List.getElem_mem hi', steps.get hi' hi⟩

theorem exists_mem_of_mapM {f : α → Except ε β} {xs : List α} {ys : List β}
    (h : xs.mapM f = .ok ys) {x : α} (hx : x ∈ xs) : ∃ y ∈ ys, f x = .ok y := by
  obtain ⟨i, hi, rfl⟩ := List.mem_iff_getElem.1 hx
  have steps := mapM_eq_ok.1 h
  have hi' : i < ys.length := steps.length_eq ▸ hi
  exact ⟨ys[i], List.getElem_mem hi', steps.get hi hi'⟩

theorem exists_mapM_eq_ok {f : α → Except ε β} {xs : List α} (h : ∀ x ∈ xs, ∃ y, f x = .ok y) :
    ∃ ys, xs.mapM f = .ok ys := by
  induction xs with
  | nil => exact ⟨[], rfl⟩
  | cons x xs ih =>
    obtain ⟨y, hy⟩ := h x List.mem_cons_self
    obtain ⟨ys, hys⟩ := ih fun x hx => h x (List.mem_cons_of_mem _ hx)
    exact ⟨y :: ys, by simp [List.mapM_cons, hy, hys, pure_eq]⟩

theorem foldlM_congr {f g : β → α → Except ε β} {xs : List α} (h : ∀ b, ∀ x ∈ xs, f b x = g b x)
    (b : β) : xs.foldlM f b = xs.foldlM g b := by
  induction xs generalizing b with
  | nil => rfl
  | cons x xs ih =>
    rw [List.foldlM_cons, List.foldlM_cons, h b x List.mem_cons_self]
    exact bind_congr fun c => ih (fun b y hy => h b y (List.mem_cons_of_mem _ hy)) c

theorem exists_foldlM_eq_ok {f : β → α → Except ε β} (h : ∀ b a, ∃ c, f b a = .ok c) (xs : List α)
    (b : β) : ∃ c, xs.foldlM f b = .ok c := by
  induction xs generalizing b with
  | nil => exact ⟨b, rfl⟩
  | cons x xs ih =>
    obtain ⟨c, hc⟩ := h b x
    obtain ⟨e, he⟩ := ih c
    exact ⟨e, by rw [List.foldlM_cons, hc, ok_bind, he]⟩

/-! ## Errors -/

/-- What a computation fails with is one of some errors. -/
def FailsOnly (P : ε → Prop) (x : Except ε α) : Prop := ∀ e, x = .error e → P e

theorem exists_eq_ok_of_failsOnly {x : Except ε α} (h : FailsOnly (fun _ => False) x) :
    ∃ a, x = .ok a := by
  cases x with
  | error e => exact (h e rfl).elim
  | ok a => exact ⟨a, rfl⟩

namespace FailsOnly

variable {P Q : ε → Prop}

theorem of_eq_ok {x : Except ε α} {a : α} (h : x = .ok a) : FailsOnly P x := by
  rintro e he
  cases h.symm.trans he

theorem mono {x : Except ε α} (h : FailsOnly P x) (hPQ : ∀ e, P e → Q e) : FailsOnly Q x := by
  intro e he
  exact hPQ e (h e he)

theorem bind {x : Except ε α} {f : α → Except ε β} (hx : FailsOnly P x)
    (hf : ∀ a, x = .ok a → FailsOnly P (f a)) : FailsOnly P (x >>= f) := by
  intro e he
  cases x with
  | error => exact hx e (by simpa only [error_bind, Except.error.injEq] using he)
  | ok a => exact hf a rfl e he

theorem map {x : Except ε α} (hx : FailsOnly P x) (f : α → β) : FailsOnly P (x.map f) := by
  intro e he
  cases x with
  | error => exact hx e (by simpa only [map_error, Except.error.injEq] using he)
  | ok a => cases he

theorem mapM {f : α → Except ε β} {xs : List α} (h : ∀ x ∈ xs, FailsOnly P (f x)) :
    FailsOnly P (xs.mapM f) := by
  induction xs with
  | nil => exact of_eq_ok rfl
  | cons x xs ih =>
    rw [List.mapM_cons]
    apply bind (h x List.mem_cons_self)
    intro y _
    apply bind (ih fun x hx => h x (List.mem_cons_of_mem _ hx))
    intro ys _
    exact of_eq_ok rfl

theorem foldlM {f : β → α → Except ε β} {xs : List α} (h : ∀ b, ∀ x ∈ xs, FailsOnly P (f b x))
    (b : β) : FailsOnly P (xs.foldlM f b) := by
  induction xs generalizing b with
  | nil => exact of_eq_ok rfl
  | cons x xs ih =>
    rw [List.foldlM_cons]
    apply bind (h b x List.mem_cons_self)
    intro c _
    exact ih (fun b x hx => h b x (List.mem_cons_of_mem _ hx)) c

end FailsOnly

/-! ## Two computations -/

section

variable {γ δ : Type}

/-- Where a computation succeeds, so does another, with the image of its result. -/
def Follows (g : α → γ) (x : Except ε α) (y : Except ε γ) : Prop := ∀ a, x = .ok a → y = .ok (g a)

namespace Follows

variable {g : α → γ} {g' : β → δ}

theorem pure (a : α) : Follows g (Pure.pure a : Except ε α) (Pure.pure (g a)) := by
  rintro _ ⟨⟩
  rfl

theorem bind {x : Except ε α} {y : Except ε γ} {f : α → Except ε β} {f' : γ → Except ε δ}
    (hx : Follows g x y) (hf : ∀ a, x = .ok a → Follows g' (f a) (f' (g a))) :
    Follows g' (x >>= f) (y >>= f') := by
  intro b hb
  obtain ⟨a, ha, hb⟩ := bind_eq_ok.1 hb
  rw [hx a ha, ok_bind]
  exact hf a ha b hb

theorem map {x : Except ε α} {y : Except ε γ} {f : α → β} {f' : γ → δ} (hx : Follows g x y)
    (hf : ∀ a, f' (g a) = g' (f a)) : Follows g' (x.map f) (y.map f') := by
  intro b hb
  obtain ⟨a, ha, rfl⟩ := map_eq_ok.1 hb
  rw [hx a ha, map_ok, hf]

theorem mapM {k : α → γ} {f : α → Except ε β} {f' : γ → Except ε δ}
    (h : ∀ a, Follows g' (f a) (f' (k a))) (xs : List α) :
    Follows (List.map g') (xs.mapM f) ((xs.map k).mapM f') := by
  intro ys hys
  rw [mapM_eq_ok, List.forall₂_map_left_iff, List.forall₂_map_right_iff]
  exact (mapM_eq_ok.1 hys).imp fun a b => h a b

theorem foldlM {ι : Type} {f : α → ι → Except ε α} {f' : γ → ι → Except ε γ} {xs : List ι}
    (h : ∀ a, ∀ x ∈ xs, Follows g (f a x) (f' (g a) x)) (a : α) :
    Follows g (xs.foldlM f a) (xs.foldlM f' (g a)) := by
  induction xs generalizing a with
  | nil => exact .pure a
  | cons x xs ih =>
    rw [List.foldlM_cons, List.foldlM_cons]
    refine (h a x List.mem_cons_self).bind ?_
    intro b _
    exact ih (fun a y hy => h a y (List.mem_cons_of_mem _ hy)) b

end Follows

end

/-- Both succeed, with results that are related, or both fail with one error. -/
inductive Rel (R : α → β → Prop) : Except ε α → Except ε β → Prop where
  | ok {a : α} {b : β} (h : R a b) : Rel R (.ok a) (.ok b)
  | error (e : ε) : Rel R (.error e) (.error e)

namespace Rel

variable {γ δ : Type} {R : α → β → Prop} {S : γ → δ → Prop}

theorem of_eq (x : Except ε α) : Rel (· = ·) x x := by
  cases x with
  | error e => exact .error e
  | ok => exact .ok rfl

theorem bind {x : Except ε α} {y : Except ε β} {f : α → Except ε γ} {g : β → Except ε δ}
    (h : Rel R x y) (hfg : ∀ a b, R a b → Rel S (f a) (g b)) : Rel S (x >>= f) (y >>= g) := by
  cases h with
  | ok h => exact hfg _ _ h
  | error e => exact .error e

theorem foldlM {f : α → γ → Except ε α} {g : β → γ → Except ε β}
    (hfg : ∀ a b x, R a b → Rel R (f a x) (g b x)) (xs : List γ) {a : α} {b : β} (h : R a b) :
    Rel R (xs.foldlM f a) (xs.foldlM g b) := by
  induction xs generalizing a b with
  | nil => exact .ok h
  | cons x xs ih =>
    rw [List.foldlM_cons, List.foldlM_cons]
    exact (hfg a b x h).bind fun a b h => ih h

end Rel

end SchemaDelta.Fallible

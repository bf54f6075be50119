import SchemaDelta.Proofs.Classes
import SchemaDelta.Proofs.Plan

/-!
# Pairs of classes

Where being the same sorts the objects of both sides into classes, and keys keep no two objects
of one class apart, a search that takes the first free object of a class takes what the objects
of the class before it have left. So the objects of a class are paired in the order in which
both sides list them, until one side has no more of them.

## Main definitions

* `Judge.Sorts` — a class is what can be joined.
-/

namespace SchemaDelta

open Comparison

/-- Objects of a class can be joined, and no others can be joined with them. -/
structure Judge.Sorts (j : Judge) (cls : Object → Bool) (references objects : List Object) :
    Prop where
  closed : ∀ r ∈ references, ∀ c ∈ objects, j.Joins r c → cls r = cls c
  joined : ∀ r ∈ references, ∀ c ∈ objects, cls r = true → cls c = true → j.Joins r c

theorem Judge.Sorts.tail {j : Judge} {cls : Object → Bool} {r : Object}
    {references objects : List Object} (h : j.Sorts cls (r :: references) objects) :
    j.Sorts cls references objects :=
  ⟨fun r hr => h.closed r (List.mem_cons_of_mem _ hr),
    fun r hr => h.joined r (List.mem_cons_of_mem _ hr)⟩

/-- What an object of a class refuses, as far as keys lead, is not of the class. -/
theorem Judge.Sorts.outside {j : Judge} {cls : Object → Bool} {references objects : List Object}
    {r d : Object} (h : j.Sorts cls references objects) (hr : r ∈ references) (hd : d ∈ objects)
    (hcls : cls r = true) (refused : j.KeysMeet r d → j.same (some r) (some d) = .ok false) :
    ¬cls d = true := by
  intro hcls'
  obtain ⟨meet, same⟩ := h.joined r hr d hd hcls hcls'
  rw [refused meet] at same
  cases same

namespace Comparison

variable {j : Judge} {cls : Object → Bool} {objects references : List Object} {taken : List Nat}
  {c : Object} {p : Nat} {outcomes : List Outcome}

/-- Taking up a free position takes its object from its place among what is free. -/
theorem freeOf_split (hc : objects[p]? = some c) (free : p ∉ taken) :
    ∃ before after, freeOf taken objects.zipIdx = before ++ c :: after ∧
      freeOf (p :: taken) objects.zipIdx = before ++ after ∧
      ∀ d ∈ before, ∃ q < p, objects[q]? = some d ∧ q ∉ taken := by
  have placed : (c, p) ∈ objects.zipIdx := List.mem_zipIdx_iff_getElem?.2 hc
  obtain ⟨before, after, split⟩ := List.append_of_mem placed
  have ascending : (objects.zipIdx.map (·.2)).Pairwise (· < ·) := by
    rw [List.zipIdx_map_snd]
    exact List.pairwise_lt_range'
  rw [split, List.map_append, List.map_cons] at ascending
  obtain ⟨-, hafter, hbefore⟩ := List.pairwise_append.1 ascending
  have above := (List.pairwise_cons.1 hafter).1
  have below : ∀ o ∈ before, o.2 < p := fun o ho =>
    hbefore _ (List.mem_map_of_mem ho) p List.mem_cons_self
  have append (taken : List Nat) (xs ys : List (Object × Nat)) :
      freeOf taken (xs ++ ys) = freeOf taken xs ++ freeOf taken ys := by
    simp [freeOf]
  refine ⟨freeOf taken before, freeOf taken after, ?_, ?_, ?_⟩
  · rw [split, append, freeOf_cons_of_not_mem free]
  · rw [split, append, freeOf_cons_of_mem List.mem_cons_self]
    congr 1
    · refine freeOf_congr ?_
      intro o ho
      simp [(below o ho).ne]
    · refine freeOf_congr ?_
      intro o ho
      simp [(above _ (List.mem_map_of_mem ho)).ne']
  · intro d hd
    obtain ⟨o, ho, rfl⟩ := List.mem_map.1 hd
    obtain ⟨ho, hfree⟩ := List.mem_filter.1 ho
    refine ⟨o.2, below o ho, ?_, by simpa using hfree⟩
    exact List.mem_zipIdx_iff_getElem?.1 (split ▸ List.mem_append_left _ ho)

/-- The objects of a class are paired in order with what is free of it. -/
theorem Settled.pairs_of_class (h : Settled j objects taken references outcomes)
    (sorts : j.Sorts cls references objects) :
    ((outcomes.filterMap Outcome.pair?).map fun x : ChangedPair =>
        (x.reference, x.comparison)).filter (fun x => cls x.1) =
      (references.filter cls).zip ((freeOf taken objects.zipIdx).filter cls) := by
  induction h with
  | done => rfl
  | @unpaired taken r rest outcomes refused later ih =>
    have ih := ih sorts.tail
    cases hr : cls r with
    | false =>
      rw [List.filter_cons_of_neg (by simp [hr])]
      exact ih
    | true =>
      -- a free object of the class would have been taken
      have none : (freeOf taken objects.zipIdx).filter cls = [] := by
        rw [List.filter_eq_nil_iff]
        intro d hd
        obtain ⟨q, hq, free⟩ := mem_freeOf_zipIdx.1 hd
        refine sorts.outside List.mem_cons_self (List.mem_of_getElem? hq) hr ?_
        intro meet
        exact refused q (List.getElem?_eq_some_iff.1 hq).1 d hq meet free d hq
      rw [none, List.zip_nil_right] at ih ⊢
      exact ih
  | @paired taken r c p l rest outcomes hc free meet same first differ later ih =>
    have ih := ih sorts.tail
    have hcls := sorts.closed r List.mem_cons_self c (List.mem_of_getElem? hc) ⟨meet, same⟩
    obtain ⟨before, after, now, next, passed⟩ := freeOf_split hc free
    rw [next, List.filter_append] at ih
    rw [now, List.filter_append]
    cases hr : cls r with
    | false =>
      rw [List.filter_cons_of_neg (by simp [hr]), List.filter_cons_of_neg (by simp [← hcls, hr]),
        ← ih]
      exact List.filter_cons_of_neg (by simp [hr])
    | true =>
      -- what was passed over is not of the class
      have none : before.filter cls = [] := by
        rw [List.filter_eq_nil_iff]
        intro d hd
        obtain ⟨q, hlt, hq, untaken⟩ := passed d hd
        refine sorts.outside List.mem_cons_self (List.mem_of_getElem? hq) hr ?_
        intro meet
        exact first q hlt d hq meet untaken d hq
      rw [none, List.nil_append] at ih ⊢
      rw [List.filter_cons_of_pos hr, List.filter_cons_of_pos (hcls ▸ hr), List.zip_cons_cons, ← ih]
      exact List.filter_cons_of_pos hr

end Comparison

/-! ## Classes of schemas, tables and columns -/

namespace Identity.Plain

variable {d : Dialect} {p : Policy} {R C : Snapshot} {k : Kind}

/-- Being the same is an equivalence among schemas, tables and columns with ASCII names. -/
theorem equivalence (plain : Plain d p) {objects : List Object}
    (ascii : ∀ o ∈ objects, o.AsciiNamed) :
    Equivalence fun a b : {o // o ∈ objects ∧ o.kind ∈ [Kind.schema, .table, .column]} =>
      same d p a.1 b.1 = true := by
  have marks (a b : {o // o ∈ objects ∧ o.kind ∈ [Kind.schema, .table, .column]}) :=
    plain.same_iff (ascii a.1 a.2.1) (ascii b.1 b.2.1) a.2.2
  refine ⟨?_, ?_, ?_⟩
  · intro a
    exact (marks a a).2 rfl
  · intro a b h
    exact (marks b a).2 ((marks a b).1 h).symm
  · intro a b c hab hbc
    exact (marks a c).2 (((marks a b).1 hab).trans ((marks b c).1 hbc))

/-- The class of an object is made of what can be joined. -/
theorem sorts (plain : Plain d p) (hk : k ∈ [Kind.schema, .table, .column])
    (ascii : ∀ o ∈ R.objects ++ C.objects, o.AsciiNamed) {o : Object}
    (ho : o ∈ R.ofKind k ++ C.ofKind k) :
    ((Rulebook.builtin d).judge d p).Sorts (same d p o) (R.ofKind k) (C.ofKind k) := by
  have known {x : Object} (hx : x ∈ R.ofKind k ++ C.ofKind k) :
      x.AsciiNamed ∧ x.kind ∈ [Kind.schema, .table, .column] := by
    rcases List.mem_append.1 hx with hx | hx
    · obtain ⟨mem, hkind⟩ := mem_ofKind.1 hx
      exact ⟨ascii x (List.mem_append_left _ mem), hkind ▸ hk⟩
    · obtain ⟨mem, hkind⟩ := mem_ofKind.1 hx
      exact ⟨ascii x (List.mem_append_right _ mem), hkind ▸ hk⟩
  have cls {x : Object} (hx : x ∈ R.ofKind k ++ C.ofKind k) :
      same d p o x = true ↔ mark? d o = mark? d x :=
    plain.same_iff (known ho).1 (known hx).1 (known ho).2
  have joins {r c : Object} (hr : r ∈ R.ofKind k) (hc : c ∈ C.ofKind k) :
      ((Rulebook.builtin d).judge d p).Joins r c ↔ mark? d r = mark? d c :=
    plain.joins_iff (known (List.mem_append_left _ hr)).1 (known (List.mem_append_right _ hc)).1
      (known (List.mem_append_left _ hr)).2
  constructor
  · intro r hr c hc h
    rw [Bool.eq_iff_iff, cls (List.mem_append_left _ hr), cls (List.mem_append_right _ hc),
      (joins hr hc).1 h]
  · intro r hr c hc h h'
    rw [joins hr hc, ← (cls (List.mem_append_left _ hr)).1 h,
      ← (cls (List.mem_append_right _ hc)).1 h']

end Identity.Plain

open Identity in
/-- Without aliases, and where catalogs do not count, being the same sorts the schemas, the tables
and the columns of two snapshots with ASCII names into classes: the judge answers for any two
objects, and among these its answers make an equivalence. Comparing pairs the objects of every
class in the order in which both sides list them, the first with the first and so on, so that
there are as many pairs as the side with fewer objects of the class has. What comparing a kind
finds is what these pairs lead to; it fails only where their differences cannot be found. -/
theorem pairs_of_classes {d : Dialect} {p : Policy} (plain : Plain d p) {R C : Snapshot}
    (ascii : ∀ o ∈ R.objects ++ C.objects, o.AsciiNamed) :
    let j := (Rulebook.builtin d).judge d p
    (∀ a b, j.same (some a) (some b) = .ok (same d p a b)) ∧
    (Equivalence fun a b : {o // o ∈ R.objects ++ C.objects ∧
      o.kind ∈ [Kind.schema, .table, .column]} => same d p a.1 b.1 = true) ∧
    ∀ k ∈ [Kind.schema, .table, .column], ∃ m : Pairing (R.ofKind k) (C.ofKind k),
      (∀ o ∈ R.ofKind k ++ C.ofKind k,
        m.pairs.filter (fun x => same d p o x.1) =
            ((R.ofKind k).filter (same d p o)).zip ((C.ofKind k).filter (same d p o)) ∧
          (m.pairs.countP fun x => same d p o x.1) =
            min ((R.ofKind k).countP (same d p o)) ((C.ofKind k).countP (same d p o))) ∧
      m.Leads j ∧
      ∀ f, compareSnapshots j p R C = .ok f → k ∈ p.kinds → m.Explains j p f := by
  intro j
  refine ⟨Rulebook.judge_same, plain.equivalence ascii, ?_⟩
  intro k hk
  have certain := Rulebook.judge_certain (d := d) (p := p) (R.ofKind k) (C.ofKind k)
  obtain ⟨outcomes, settled⟩ := exists_settled_blind certain
  have leads : settled.pairing.Leads j := settled.leads_pairing certain rfl
  have settles : settled.pairing.Settles j := by
    obtain ⟨same, meet, refused⟩ := settled.settles_pairing
    exact ⟨same, meet, refused⟩
  refine ⟨settled.pairing, ?_, leads, fun f hf => leads.explains settles hf⟩
  intro o ho
  have sorts : j.blind.Sorts (same d p o) (R.ofKind k) (C.ofKind k) := by
    obtain ⟨closed, joined⟩ := plain.sorts hk ascii ho
    exact ⟨closed, joined⟩
  have pairs : settled.pairing.pairs.filter (fun x => same d p o x.1) =
      ((R.ofKind k).filter (same d p o)).zip ((C.ofKind k).filter (same d p o)) := by
    have free : freeOf [] (C.ofKind k).zipIdx = C.ofKind k := by
      simp [freeOf, List.zipIdx_map_fst]
    rw [settled.pairs_pairing, settled.pairs_of_class sorts, free]
  refine ⟨pairs, ?_⟩
  rw [List.countP_eq_length_filter, List.countP_eq_length_filter, List.countP_eq_length_filter,
    pairs, List.length_zip]

theorem pairs_of_classes_sales :
    let R : Snapshot :=
      ⟨none, none, [bareSchema 0 0 "sales", bareSchema 0 1 "Public", bareSchema 0 2 "SALES"]⟩
    let C : Snapshot :=
      ⟨none, none, [bareSchema 1 0 " Sales", bareSchema 1 1 "public", bareSchema 1 2 ""]⟩
    let same := Identity.same .postgres .standard
    ∃ m : Pairing (R.ofKind .schema) (C.ofKind .schema),
      m.pairs.filter (fun x => same (bareSchema 0 2 "SALES") x.1) =
        [(bareSchema 0 0 "sales", bareSchema 1 0 " Sales")] ∧
      m.pairs.filter (fun x => same (bareSchema 0 1 "Public") x.1) =
        [(bareSchema 0 1 "Public", bareSchema 1 1 "public")] := by
  intro R C same
  have plain : Identity.Plain .postgres .standard := by
    refine ⟨rfl, rfl, ?_, rfl, rfl⟩
    decide
  have ascii : ∀ o ∈ R.objects ++ C.objects, o.AsciiNamed := by
    have named : ∀ o ∈ R.objects ++ C.objects, o.kind = .schema ∧ AsciiName o.name := by
      decide
    intro o ho
    obtain ⟨hkind, hname⟩ := named o ho
    cases o <;> cases hkind
    exact hname
  obtain ⟨m, classes, -⟩ := (pairs_of_classes plain ascii).2.2 .schema (by decide)
  refine ⟨m, ?_, ?_⟩
  · rw [(classes _ (List.mem_of_getElem? (i := 2) rfl)).1]
    decide +kernel
  · rw [(classes _ (List.mem_of_getElem? (i := 1) rfl)).1]
    decide +kernel

end SchemaDelta

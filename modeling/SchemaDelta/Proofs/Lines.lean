import SchemaDelta.Proofs.Quoted
import SchemaDelta.Toml.Writer

/-!
# Reading the lines of a table

A plain member is written as a key and a value in a line, or in several lines when the value is an
array of several items. Each part is read up to where it ends, which is shown by what stands behind
it: the key by a blank, an item by a comma or a bracket, the value by the end of its line. So the
lines of some members are read by putting the members into the open table.

## Main definitions

* `Scalar`, `Leaf` — the values that plain members hold.
* `EndsValue`, `Starts` — what stands behind a value, and before one.
* `Desk.fill` — putting members into the open table.
-/

namespace SchemaDelta.Toml

variable {c : Char} {cs rest : List Char}

/-! ## Values -/

/-- A string or a truth value. -/
inductive Scalar : Toml → Prop
  | string (s : String) : Scalar (.string s)
  | boolean (b : Bool) : Scalar (.boolean b)

/-- A string, a truth value or an array of them. -/
inductive Leaf : Toml → Prop
  | scalar {t : Toml} (scalar : Scalar t) : Leaf t
  | array {items : List Toml} (scalars : ∀ t ∈ items, Scalar t) : Leaf (.array items)

/-- What may stand behind a value: the end of its line or its place in an array. -/
def EndsValue (rest : List Char) : Prop := ∀ c ∈ rest.head?, c = '\n' ∨ c = ',' ∨ c = ']'

theorem endsValue_cons : EndsValue (c :: rest) ↔ c = '\n' ∨ c = ',' ∨ c = ']' := by
  simp [EndsValue]

/-- A run of letters is read as a whole. -/
theorem readScalar?_append {t : Toml} (ends : EndsValue rest) (run : cs.all isScalarChar)
    (undated : date? cs = none) (value : scalar? cs = some t) :
    readScalar? (cs ++ rest) = some (t, rest) := by
  have stop : ∀ c ∈ rest.head?, isScalarChar c = false := by
    intro c hc
    rcases ends c hc with rfl | rfl | rfl <;> decide
  obtain ⟨taken, left⟩ := Text.span_append (List.all_eq_true.1 run) stop
  simp only [readScalar?, taken, left, undated, value, Option.map_some]

theorem scalar_read {t : Toml} (h : Scalar t) (depth : Nat) (ends : EndsValue rest) :
    readValue? depth ((inline t).toList ++ rest) = some (t, rest) := by
  cases h with
  | string s =>
    have apart (q : Char) (hq : q ≠ '\n' ∧ q ≠ ',' ∧ q ≠ ']') : ∀ t, rest ≠ q :: t := by
      rintro t rfl
      rcases endsValue_cons.1 ends with rfl | rfl | rfl <;> simp at hq
    have read := string?_quote s (apart '"' (by decide)) (apart '\'' (by decide))
    obtain ⟨q, t, head, hq⟩ := quote_head? s
    rw [head, List.cons_append] at read
    rw [inline, head, List.cons_append]
    rcases hq with rfl | rfl <;>
    · rw [readValue?, read]
      simp
  | boolean b =>
    cases b with
    | true =>
      have written : (inline (.boolean true)).toList = ['t', 'r', 'u', 'e'] := by decide
      have read : readScalar? (['t', 'r', 'u', 'e'] ++ rest) = some (.boolean true, rest) :=
        readScalar?_append ends (by decide) rfl rfl
      rw [written, List.cons_append, readValue?]
      · exact read
      all_goals simp
    | false =>
      have written : (inline (.boolean false)).toList = ['f', 'a', 'l', 's', 'e'] := by decide
      have read : readScalar? (['f', 'a', 'l', 's', 'e'] ++ rest) = some (.boolean false, rest) :=
        readScalar?_append ends (by decide) rfl rfl
      rw [written, List.cons_append, readValue?]
      · exact read
      all_goals simp

/-- Nothing is skipped before a text that starts so. -/
def Starts (c : Char) : Prop := isSpace c = false ∧ c ≠ '\n' ∧ c ≠ '\x0d' ∧ c ≠ '#'

theorem skipLines?_of_starts (h : Starts c) : skipLines? false (c :: rest) = some (c :: rest) := by
  obtain ⟨notSpace, notBreak, notReturn, notComment⟩ := h
  rw [skipLines?]
  · simp [notSpace]
  all_goals simp_all

theorem skipSpaces_of_starts (h : Starts c) : skipSpaces (c :: rest) = c :: rest :=
  List.dropWhile_cons_of_neg (by simp [h.1])

theorem Scalar.head? {t : Toml} (h : Scalar t) :
    ∃ c u, (inline t).toList = c :: u ∧ Starts c ∧ c ≠ ']' := by
  cases h with
  | string s =>
    obtain ⟨q, t, head, hq⟩ := quote_head? s
    refine ⟨q, t, head, ?_⟩
    rcases hq with rfl | rfl <;> exact ⟨by unfold Starts; decide, by decide⟩
  | boolean b =>
    cases b with
    | true => exact ⟨'t', _, rfl, by unfold Starts; decide, by decide⟩
    | false => exact ⟨'f', _, rfl, by unfold Starts; decide, by decide⟩

/-! ## Arrays -/

theorem readItems?_close (depth : Nat) (h : skipLines? false cs = some (']' :: rest)) :
    readItems? depth cs = some ([], rest) := by
  rw [readItems?]
  split <;> simp_all

/-- The items from one on that was read, in a text that was longer before. -/
def moreItems? (depth : Nat) (cs : List Char) (t : Toml) (rest : List Char) :
    Option (List Toml × List Char) :=
  match skipLines? false rest with
  | some (']' :: rest) => some ([t], rest)
  | some (',' :: rest) =>
    if rest.length < cs.length then
      (readItems? depth rest).map fun (ts, rest) => (t :: ts, rest)
    else none
  | _ => none

theorem readItems?_item {depth : Nat} {t : Toml} (scalar : Scalar t) (ends : EndsValue rest)
    (h : skipLines? false cs = some ((inline t).toList ++ rest)) :
    readItems? depth cs = moreItems? depth cs t rest := by
  obtain ⟨c, u, head, -, notClose⟩ := scalar.head?
  have read := scalar_read scalar depth ends
  rw [readItems?]
  split
  · next same => exact absurd (h.symm.trans same) (by simp)
  · next same =>
    rw [h, head] at same
    exact absurd (List.cons.inj (Option.some.inj same)).1 notClose
  · next item _ same =>
    obtain rfl := Option.some.inj (h.symm.trans same)
    rw [read]
    rfl

/-- The item of an array that has no other. -/
theorem readItems?_single {t : Toml} (scalar : Scalar t) (depth : Nat) :
    readItems? depth ((inline t).toList ++ ']' :: rest) = some ([t], rest) := by
  obtain ⟨c, u, head, starts, -⟩ := scalar.head?
  have shown : skipLines? false ((inline t).toList ++ ']' :: rest) =
      some ((inline t).toList ++ ']' :: rest) := by
    rw [head]
    exact skipLines?_of_starts starts
  rw [readItems?_item scalar (endsValue_cons.2 (by simp)) shown, moreItems?,
    skipLines?_of_starts (by unfold Starts; decide)]
  rfl

/-- A line of an array that has an item to a line. -/
def itemLine (t : Toml) : List Char :=
  ' ' :: ' ' :: ' ' :: ' ' :: ((inline t).toList ++ [',', '\n'])

theorem readItems?_lines {items : List Toml} (scalars : ∀ t ∈ items, Scalar t) (depth : Nat) :
    readItems? depth ('\n' :: (items.flatMap itemLine ++ ']' :: rest)) = some (items, rest) := by
  induction items with
  | nil => exact readItems?_close depth rfl
  | cons t items ih =>
    obtain ⟨scalar, scalars⟩ := List.forall_mem_cons.1 scalars
    obtain ⟨c, u, head, starts, -⟩ := scalar.head?
    have shown : skipLines? false ('\n' :: ((t :: items).flatMap itemLine ++ ']' :: rest)) =
        some ((inline t).toList ++ ',' :: '\n' :: (items.flatMap itemLine ++ ']' :: rest)) := by
      simp only [List.flatMap_cons, itemLine, List.append_assoc, List.cons_append, List.nil_append]
      change skipLines? false ((inline t).toList ++ _) = _
      rw [head]
      exact skipLines?_of_starts starts
    rw [readItems?_item scalar (endsValue_cons.2 (by simp)) shown, moreItems?,
      skipLines?_of_starts (by unfold Starts; decide)]
    change (if _ then _ else _) = _
    rw [if_pos (by simp [itemLine]; omega), ih scalars]
    rfl

theorem inlineItems_eq_map (items : List Toml) : inlineItems items = items.map inline := by
  induction items with
  | nil => rfl
  | cons t items ih => rw [inlineItems, ih, List.map_cons]

/-- What stands in the brackets of an array. -/
def arrayInside : List Toml → List Char
  | [] => []
  | [t] => (inline t).toList
  | items => '\n' :: items.flatMap itemLine

theorem value_array (items : List Toml) :
    (value (.array items)).toList = '[' :: (arrayInside items ++ [']']) := by
  match items with
  | [] => rfl
  | [t] => simp [value, inline, inlineItems, arrayInside]
  | a :: b :: items =>
    simp only [value, inlineItems_eq_map, String.toList_append, String.toList_join, List.map_map,
      List.flatMap_map, arrayInside]
    simp [itemLine]
    rfl

theorem readItems?_arrayInside {items : List Toml} (scalars : ∀ t ∈ items, Scalar t)
    (depth : Nat) : readItems? depth (arrayInside items ++ ']' :: rest) = some (items, rest) :=
  match items, scalars with
  | [], _ => readItems?_close depth rfl
  | [_], scalars => readItems?_single (scalars _ List.mem_cons_self) depth
  | _ :: _ :: _, scalars => readItems?_lines scalars depth

theorem Scalar.value_eq_inline {t : Toml} (h : Scalar t) : value t = inline t := by
  cases h <;> rfl

theorem leaf_read {t : Toml} (h : Leaf t) (ends : EndsValue rest) :
    readValue? 0 ((value t).toList ++ rest) = some (t, rest) := by
  cases h with
  | scalar h =>
    rw [h.value_eq_inline]
    exact scalar_read h 0 ends
  | array scalars =>
    rw [value_array, List.cons_append, List.append_assoc, readValue?]
    change Option.map _ (readItems? 1 (_ ++ ']' :: rest)) = _
    rw [readItems?_arrayInside scalars]
    rfl

theorem Leaf.head? {t : Toml} (h : Leaf t) : ∃ c u, (value t).toList = c :: u ∧ Starts c := by
  cases h with
  | scalar h =>
    obtain ⟨c, u, head, starts, -⟩ := h.head?
    exact ⟨c, u, h.value_eq_inline ▸ head, starts⟩
  | array => exact ⟨'[', _, value_array _, by unfold Starts; decide⟩

/-! ## Keys -/

theorem StartsKey.starts (h : StartsKey c) : Starts c := by
  rcases h with rfl | rfl | bare
  · unfold Starts
    decide
  · unfold Starts
    decide
  · refine ⟨?_, ?_, ?_, ?_⟩
    · rw [Bool.eq_false_iff]
      intro space
      simp only [isSpace, Bool.or_eq_true, beq_iff_eq] at space
      rcases space with rfl | rfl <;> exact absurd bare (by decide)
    all_goals
      rintro rfl
      exact absurd bare (by decide)

theorem StartsKey.ne_bracket (h : StartsKey c) : c ≠ '[' := by
  rintro rfl
  rcases h with h | h | h <;> exact absurd h (by decide)

theorem pathText_cons (k : String) (ks : List String) : (pathText (k :: ks)).toList =
    (quoteKey k).toList ++ ks.flatMap fun l => '.' :: (quoteKey l).toList := by
  induction ks generalizing k with
  | nil => simp [pathText]
  | cons l ks ih =>
    have more : pathText (k :: l :: ks) = quoteKey k ++ "." ++ pathText (l :: ks) :=
      String.intercalate_cons_cons
    rw [more, String.toList_append, String.toList_append, ih, List.flatMap_cons, List.append_assoc]
    rfl

theorem readKey?_path {limit : Nat} {k : String} {ks : List String} (short : ks.length < limit)
    (bare : ∀ c ∈ rest.head?, isBare c = false) (ends : ∀ t, skipSpaces rest ≠ '.' :: t) :
    readKey? ((pathText (k :: ks)).toList ++ rest) limit = some (k :: ks, skipSpaces rest) := by
  rw [pathText_cons, List.append_assoc]
  have shown (l : String) (t : List Char) :
      skipSpaces ((quoteKey l).toList ++ t) = (quoteKey l).toList ++ t := by
    obtain ⟨c, u, head, starts⟩ := quoteKey_head? l
    rw [head]
    exact skipSpaces_of_starts starts.starts
  induction ks generalizing k limit with
  | nil =>
    obtain ⟨limit, rfl⟩ := Nat.exists_eq_add_of_lt short
    rw [readKey?, shown, List.flatMap_nil, List.nil_append, simpleKey?_quoteKey k bare]
    dsimp only
    split
    · next same => exact absurd same (ends _)
    · rfl
  | cons l ks ih =>
    obtain ⟨limit, rfl⟩ : ∃ m, limit = m + 1 := ⟨limit - 1, by simp at short; omega⟩
    rw [List.length_cons, Nat.add_lt_add_iff_right] at short
    rw [readKey?, shown, List.flatMap_cons, List.cons_append, List.cons_append, List.append_assoc,
      simpleKey?_quoteKey k (by rintro _ ⟨⟩; decide)]
    change Option.map _ (readKey? _ limit) = _
    rw [ih short]
    rfl

/-! ## Lines -/

/-- A line is taken together with its end. -/
theorem readLines?_line {d : Desk} {next : Option Desk} {c : Char} {line : List Char}
    (skip : skipLines? false cs = some (c :: line))
    (h : readLine? d (c :: line) = next.map fun d => (d, '\n' :: rest))
    (shorter : rest.length < cs.length) :
    readLines? d cs = next.bind fun d => readLines? d rest := by
  rw [readLines?, skip]
  dsimp only
  rw [h]
  cases next with
  | none => rfl
  | some d' => exact if_pos shorter

/-- Put members into the open table, one after the other. -/
def Desk.fill (d : Desk) (members : List (String × Toml)) : Option Desk :=
  members.foldlM (fun d m => d.assign? [m.1] m.2) d

/-- A plain member in its line. -/
def memberLine (m : String × Toml) : List Char :=
  (quoteKey m.1).toList ++ ' ' :: '=' :: ' ' :: ((value m.2).toList ++ ['\n'])

theorem readLine?_member (d : Desk) {m : String × Toml} (h : Leaf m.2) (rest : List Char) :
    readLine? d (memberLine m ++ rest) =
      (d.assign? [m.1] m.2).map fun d => (d, '\n' :: rest) := by
  have key : readKey? ((pathText [m.1]).toList ++ ' ' :: '=' :: ' ' ::
      ((value m.2).toList ++ '\n' :: rest)) (depthLimit - 1) =
        some ([m.1], '=' :: ' ' :: ((value m.2).toList ++ '\n' :: rest)) :=
    readKey?_path (by decide) (by rintro _ ⟨⟩; decide) (by rintro t ⟨⟩)
  rw [pathText_cons, List.flatMap_nil, List.append_nil] at key
  have ends : EndsValue ('\n' :: rest) := endsValue_cons.2 (.inl rfl)
  have value := leaf_read h ends
  have shown : skipSpaces (' ' :: ((Toml.value m.2).toList ++ '\n' :: rest)) =
      (Toml.value m.2).toList ++ '\n' :: rest := by
    obtain ⟨c, u, head, starts⟩ := h.head?
    rw [head]
    exact skipSpaces_of_starts starts
  have text : memberLine m ++ rest =
      (quoteKey m.1).toList ++ ' ' :: '=' :: ' ' :: ((Toml.value m.2).toList ++ '\n' :: rest) := by
    simp [memberLine]
  obtain ⟨c, u, head, starts⟩ := quoteKey_head? m.1
  have notBracket := starts.ne_bracket
  rw [text, readLine?, dottedKey?, key]
  · change (readValue? 0 (skipSpaces (' ' :: (_ ++ '\n' :: rest)))).bind _ = _
    rw [shown, value]
    rfl
  all_goals
    intro t same
    rw [head, List.cons_append, List.cons.injEq] at same
    exact notBracket same.1

theorem readLines?_members {members : List (String × Toml)} (leaves : ∀ m ∈ members, Leaf m.2)
    (d : Desk) : readLines? d (members.flatMap memberLine ++ rest) =
      (d.fill members).bind fun d => readLines? d rest := by
  induction members generalizing d with
  | nil => rfl
  | cons m members ih =>
    obtain ⟨leaf, leaves⟩ := List.forall_mem_cons.1 leaves
    obtain ⟨c, u, head, starts⟩ := quoteKey_head? m.1
    have text : (m :: members).flatMap memberLine ++ rest = c :: (u ++ ' ' :: '=' :: ' ' ::
        ((value m.2).toList ++ '\n' :: (members.flatMap memberLine ++ rest))) := by
      simp [memberLine, head]
    have line := readLine?_member d leaf (members.flatMap memberLine ++ rest)
    rw [← List.append_assoc, ← List.flatMap_cons, text] at line
    rw [text, readLines?_line (skipLines?_of_starts starts.starts) line (by simp; omega)]
    rw [Desk.fill, List.foldlM_cons]
    cases h : d.assign? [m.1] m.2 with
    | none => rfl
    | some d' => exact ih leaves d'

theorem plainLines_toList (members : List (String × Toml)) : (plainLines members).toList =
    (members.filter fun m => !m.2.hasHeader).flatMap memberLine := by
  simp [plainLines, String.toList_join, List.flatMap_map]
  rfl

end SchemaDelta.Toml

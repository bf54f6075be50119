import SchemaDelta.Object

/-!
# Instances

Equality of objects is decidable. Two objects are equal exactly when they are the same
instance, and the tags, which are compared first, already tell different instances apart.
Parts that are one place in memory are not looked into, so that objects which share their
parts many times over stay cheap to compare.
-/

namespace SchemaDelta

mutual

def decEqValue : (a b : Value) → Decidable (a = b)
  | .text a, b =>
    match b with
    | .text b => decidable_of_iff (a = b) (by simp)
    | .bool _ | .number _ | .dataType _ | .autoIncrement _ | .object _ | .list _ =>
      isFalse nofun
  | .bool a, b =>
    match b with
    | .bool b => decidable_of_iff (a = b) (by simp)
    | .text _ | .number _ | .dataType _ | .autoIncrement _ | .object _ | .list _ =>
      isFalse nofun
  | .number a, b =>
    match b with
    | .number b => decidable_of_iff (a = b) (by simp)
    | .text _ | .bool _ | .dataType _ | .autoIncrement _ | .object _ | .list _ =>
      isFalse nofun
  | .dataType a, b =>
    match b with
    | .dataType b => decidable_of_iff (a = b) (by simp)
    | .text _ | .bool _ | .number _ | .autoIncrement _ | .object _ | .list _ =>
      isFalse nofun
  | .autoIncrement a, b =>
    match b with
    | .autoIncrement b => decidable_of_iff (a = b) (by simp)
    | .text _ | .bool _ | .number _ | .dataType _ | .object _ | .list _ =>
      isFalse nofun
  | .object a, b =>
    match b with
    | .object b =>
      have := withPtrEqDecEq a b fun _ => decEqObject a b
      decidable_of_iff (a = b) (by simp)
    | .text _ | .bool _ | .number _ | .dataType _ | .autoIncrement _ | .list _ =>
      isFalse nofun
  | .list a, b =>
    match b with
    | .list b =>
      have := decEqValues a b
      decidable_of_iff (a = b) (by simp)
    | .text _ | .bool _ | .number _ | .dataType _ | .autoIncrement _ | .object _ =>
      isFalse nofun
termination_by structural a => a

def decEqValues : (a b : List Value) → Decidable (a = b)
  | [], [] => isTrue rfl
  | x :: xs, y :: ys =>
    match decEqValue x y with
    | isTrue h =>
      have := decEqValues xs ys
      decidable_of_iff (xs = ys) (by simp [h])
    | isFalse h => isFalse (by simp [h])
  | [], _ :: _ => isFalse nofun
  | _ :: _, [] => isFalse nofun
termination_by structural a => a

def decEqAttributes : (a b : List (String × Value)) → Decidable (a = b)
  | [], [] => isTrue rfl
  | (k, x) :: xs, (l, y) :: ys =>
    if hk : k = l then
      match decEqValue x y with
      | isTrue h =>
        have := decEqAttributes xs ys
        decidable_of_iff (xs = ys) (by simp [h, hk])
      | isFalse h => isFalse (by simp [h])
    else isFalse (by simp [hk])
  | [], _ :: _ => isFalse nofun
  | _ :: _, [] => isFalse nofun
termination_by structural a => a

def decEqColumns : (a b : List Column) → Decidable (a = b)
  | [], [] => isTrue rfl
  | x :: xs, y :: ys =>
    match withPtrEqDecEq x y fun _ => decEqColumn x y with
    | isTrue h =>
      have := decEqColumns xs ys
      decidable_of_iff (xs = ys) (by simp [h])
    | isFalse h => isFalse (by simp [h])
  | [], _ :: _ => isFalse nofun
  | _ :: _, [] => isFalse nofun
termination_by structural a => a

def decEqOptValue : (a b : Option Value) → Decidable (a = b)
  | none, none => isTrue rfl
  | some a, some b =>
    have := decEqValue a b
    decidable_of_iff (a = b) (by simp)
  | none, some _ => isFalse nofun
  | some _, none => isFalse nofun
termination_by structural a => a

def decEqOptCatalog : (a b : Option Catalog) → Decidable (a = b)
  | none, none => isTrue rfl
  | some a, some b =>
    have := withPtrEqDecEq a b fun _ => decEqCatalog a b
    decidable_of_iff (a = b) (by simp)
  | none, some _ => isFalse nofun
  | some _, none => isFalse nofun
termination_by structural a => a

def decEqOptSchema : (a b : Option Schema) → Decidable (a = b)
  | none, none => isTrue rfl
  | some a, some b =>
    have := withPtrEqDecEq a b fun _ => decEqSchema a b
    decidable_of_iff (a = b) (by simp)
  | none, some _ => isFalse nofun
  | some _, none => isFalse nofun
termination_by structural a => a

def decEqOptTable : (a b : Option Table) → Decidable (a = b)
  | none, none => isTrue rfl
  | some a, some b =>
    have := withPtrEqDecEq a b fun _ => decEqTable a b
    decidable_of_iff (a = b) (by simp)
  | none, some _ => isFalse nofun
  | some _, none => isFalse nofun
termination_by structural a => a

def decEqOptIndex : (a b : Option Index) → Decidable (a = b)
  | none, none => isTrue rfl
  | some a, some b =>
    have := withPtrEqDecEq a b fun _ => decEqIndex a b
    decidable_of_iff (a = b) (by simp)
  | none, some _ => isFalse nofun
  | some _, none => isFalse nofun
termination_by structural a => a

def decEqCatalog : (a b : Catalog) → Decidable (a = b)
  | ⟨tag, n, id, a⟩, ⟨tag', n', id', a'⟩ =>
    if h : tag = tag' then
      have := decEqAttributes a a'
      decidable_of_iff (n = n' ∧ id = id' ∧ a = a') (by simp [h])
    else isFalse (by simp [h])
termination_by structural a => a

def decEqSchema : (a b : Schema) → Decidable (a = b)
  | ⟨tag, n, c, id, a⟩, ⟨tag', n', c', id', a'⟩ =>
    if h : tag = tag' then
      have := decEqOptCatalog c c'
      have := decEqAttributes a a'
      decidable_of_iff (n = n' ∧ c = c' ∧ id = id' ∧ a = a') (by simp [h])
    else isFalse (by simp [h])
termination_by structural a => a

def decEqTable : (a b : Table) → Decidable (a = b)
  | ⟨tag, n, s, r, t, dt, a⟩, ⟨tag', n', s', r', t', dt', a'⟩ =>
    if h : tag = tag' then
      have := decEqOptSchema s s'
      have := decEqAttributes a a'
      decidable_of_iff (n = n' ∧ s = s' ∧ r = r' ∧ t = t' ∧ dt = dt' ∧ a = a') (by simp [h])
    else isFalse (by simp [h])
termination_by structural a => a

def decEqColumn : (a b : Column) → Decidable (a = b)
  | ⟨tag, n1, r1, dt, n2, dv, r2, o, c, d, ai, a⟩,
    ⟨tag', n1', r1', dt', n2', dv', r2', o', c', d', ai', a'⟩ =>
    if h : tag = tag' then
      have := decEqOptTable r1 r1'
      have := decEqOptValue dv dv'
      have := decEqAttributes a a'
      decidable_of_iff
        (n1 = n1' ∧ r1 = r1' ∧ dt = dt' ∧ n2 = n2' ∧ dv = dv' ∧ r2 = r2' ∧ o = o' ∧ c = c' ∧
          d = d' ∧ ai = ai' ∧ a = a')
        (by simp [h])
    else isFalse (by simp [h])
termination_by structural a => a

def decEqIndex : (a b : Index) → Decidable (a = b)
  | ⟨tag, n, t, os, c1, u, c2, a⟩, ⟨tag', n', t', os', c1', u', c2', a'⟩ =>
    if h : tag = tag' then
      have := decEqOptTable t t'
      have := decEqOptSchema os os'
      have := decEqColumns c1 c1'
      have := decEqAttributes a a'
      decidable_of_iff
        (n = n' ∧ t = t' ∧ os = os' ∧ c1 = c1' ∧ u = u' ∧ c2 = c2' ∧ a = a') (by simp [h])
    else isFalse (by simp [h])
termination_by structural a => a

def decEqPrimaryKey : (a b : PrimaryKey) → Decidable (a = b)
  | ⟨tag, n, t, c, bi, a⟩, ⟨tag', n', t', c', bi', a'⟩ =>
    if h : tag = tag' then
      have := decEqOptTable t t'
      have := decEqColumns c c'
      have := decEqOptIndex bi bi'
      have := decEqAttributes a a'
      decidable_of_iff (n = n' ∧ t = t' ∧ c = c' ∧ bi = bi' ∧ a = a') (by simp [h])
    else isFalse (by simp [h])
termination_by structural a => a

def decEqForeignKey : (a b : ForeignKey) → Decidable (a = b)
  | ⟨tag, n, ft, fc, pt, pc, ur, dr, d, id, v, bi, a⟩,
    ⟨tag', n', ft', fc', pt', pc', ur', dr', d', id', v', bi', a'⟩ =>
    if h : tag = tag' then
      have := decEqOptTable ft ft'
      have := decEqColumns fc fc'
      have := decEqOptTable pt pt'
      have := decEqColumns pc pc'
      have := decEqOptIndex bi bi'
      have := decEqAttributes a a'
      decidable_of_iff
        (n = n' ∧ ft = ft' ∧ fc = fc' ∧ pt = pt' ∧ pc = pc' ∧ ur = ur' ∧ dr = dr' ∧ d = d' ∧
          id = id' ∧ v = v' ∧ bi = bi' ∧ a = a')
        (by simp [h])
    else isFalse (by simp [h])
termination_by structural a => a

def decEqUniqueConstraint : (a b : UniqueConstraint) → Decidable (a = b)
  | ⟨tag, n, t, os, c1, d1, id, d2, c2, bi, a⟩,
    ⟨tag', n', t', os', c1', d1', id', d2', c2', bi', a'⟩ =>
    if h : tag = tag' then
      have := decEqOptTable t t'
      have := decEqOptSchema os os'
      have := decEqColumns c1 c1'
      have := decEqOptIndex bi bi'
      have := decEqAttributes a a'
      decidable_of_iff
        (n = n' ∧ t = t' ∧ os = os' ∧ c1 = c1' ∧ d1 = d1' ∧ id = id' ∧ d2 = d2' ∧ c2 = c2' ∧
          bi = bi' ∧ a = a')
        (by simp [h])
    else isFalse (by simp [h])
termination_by structural a => a

def decEqObject : (a b : Object) → Decidable (a = b)
  | .catalog a, b =>
    match b with
    | .catalog b =>
      have := withPtrEqDecEq a b fun _ => decEqCatalog a b
      decidable_of_iff (a = b) (by simp)
    | .schema _ | .table _ | .column _ | .index _ | .primaryKey _
    | .foreignKey _ | .uniqueConstraint _ => isFalse nofun
  | .schema a, b =>
    match b with
    | .schema b =>
      have := withPtrEqDecEq a b fun _ => decEqSchema a b
      decidable_of_iff (a = b) (by simp)
    | .catalog _ | .table _ | .column _ | .index _ | .primaryKey _
    | .foreignKey _ | .uniqueConstraint _ => isFalse nofun
  | .table a, b =>
    match b with
    | .table b =>
      have := withPtrEqDecEq a b fun _ => decEqTable a b
      decidable_of_iff (a = b) (by simp)
    | .catalog _ | .schema _ | .column _ | .index _ | .primaryKey _
    | .foreignKey _ | .uniqueConstraint _ => isFalse nofun
  | .column a, b =>
    match b with
    | .column b =>
      have := withPtrEqDecEq a b fun _ => decEqColumn a b
      decidable_of_iff (a = b) (by simp)
    | .catalog _ | .schema _ | .table _ | .index _ | .primaryKey _
    | .foreignKey _ | .uniqueConstraint _ => isFalse nofun
  | .index a, b =>
    match b with
    | .index b =>
      have := withPtrEqDecEq a b fun _ => decEqIndex a b
      decidable_of_iff (a = b) (by simp)
    | .catalog _ | .schema _ | .table _ | .column _ | .primaryKey _
    | .foreignKey _ | .uniqueConstraint _ => isFalse nofun
  | .primaryKey a, b =>
    match b with
    | .primaryKey b =>
      have := withPtrEqDecEq a b fun _ => decEqPrimaryKey a b
      decidable_of_iff (a = b) (by simp)
    | .catalog _ | .schema _ | .table _ | .column _ | .index _
    | .foreignKey _ | .uniqueConstraint _ => isFalse nofun
  | .foreignKey a, b =>
    match b with
    | .foreignKey b =>
      have := withPtrEqDecEq a b fun _ => decEqForeignKey a b
      decidable_of_iff (a = b) (by simp)
    | .catalog _ | .schema _ | .table _ | .column _ | .index _
    | .primaryKey _ | .uniqueConstraint _ => isFalse nofun
  | .uniqueConstraint a, b =>
    match b with
    | .uniqueConstraint b =>
      have := withPtrEqDecEq a b fun _ => decEqUniqueConstraint a b
      decidable_of_iff (a = b) (by simp)
    | .catalog _ | .schema _ | .table _ | .column _ | .index _
    | .primaryKey _ | .foreignKey _ => isFalse nofun
termination_by structural a => a

end

instance : DecidableEq Value := decEqValue

instance : DecidableEq Catalog := decEqCatalog

instance : DecidableEq Schema := decEqSchema

instance : DecidableEq Table := decEqTable

instance : DecidableEq Column := decEqColumn

instance : DecidableEq Index := decEqIndex

instance : DecidableEq PrimaryKey := decEqPrimaryKey

instance : DecidableEq ForeignKey := decEqForeignKey

instance : DecidableEq UniqueConstraint := decEqUniqueConstraint

instance : DecidableEq Object := decEqObject

/-- Whether two objects are one instance. -/
def Object.sameInstance (a b : Object) : Bool := decide (a = b)

end SchemaDelta

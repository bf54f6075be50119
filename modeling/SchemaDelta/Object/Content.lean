import SchemaDelta.Object

/-!
# Content

Equality of what objects and values hold, whichever instances they are. Numbers are
compared within their width, so `nan` has not even the content of itself.
-/

namespace SchemaDelta

mutual

/-- Values of one type that hold the same content. -/
def sameContent : Value → Value → Bool
  | .text a, .text b => a == b
  | .bool a, .bool b => a == b
  | .number a, .number b => a.same b
  | .dataType a, .dataType b => a == b
  | .autoIncrement a, .autoIncrement b => a == b
  | .object a, .object b => sameObjectContent a b
  | .list a, .list b => sameContents a b
  | _, _ => false
termination_by structural a => a

def sameContents : List Value → List Value → Bool
  | [], [] => true
  | a :: as, b :: bs => sameContent a b && sameContents as bs
  | _, _ => false
termination_by structural a => a

def sameAttributeContent : List (String × Value) → List (String × Value) → Bool
  | [], [] => true
  | (k, a) :: as, (l, b) :: bs => k == l && sameContent a b && sameAttributeContent as bs
  | _, _ => false
termination_by structural a => a

def sameColumnContents : List Column → List Column → Bool
  | [], [] => true
  | a :: as, b :: bs => sameColumnContent a b && sameColumnContents as bs
  | _, _ => false
termination_by structural a => a

def sameOptionalValueContent : Option Value → Option Value → Bool
  | none, none => true
  | some a, some b => sameContent a b
  | _, _ => false
termination_by structural a => a

def sameOptionalCatalogContent : Option Catalog → Option Catalog → Bool
  | none, none => true
  | some a, some b => sameCatalogContent a b
  | _, _ => false
termination_by structural a => a

def sameOptionalSchemaContent : Option Schema → Option Schema → Bool
  | none, none => true
  | some a, some b => sameSchemaContent a b
  | _, _ => false
termination_by structural a => a

def sameOptionalTableContent : Option Table → Option Table → Bool
  | none, none => true
  | some a, some b => sameTableContent a b
  | _, _ => false
termination_by structural a => a

def sameOptionalIndexContent : Option Index → Option Index → Bool
  | none, none => true
  | some a, some b => sameIndexContent a b
  | _, _ => false
termination_by structural a => a

def sameCatalogContent : Catalog → Catalog → Bool
  | ⟨_, n, id, a⟩, ⟨_, n', id', a'⟩ =>
    n == n' && id == id' && sameAttributeContent a a'
termination_by structural a => a

def sameSchemaContent : Schema → Schema → Bool
  | ⟨_, n, c, id, a⟩, ⟨_, n', c', id', a'⟩ =>
    n == n' && sameOptionalCatalogContent c c' && id == id' && sameAttributeContent a a'
termination_by structural a => a

def sameTableContent : Table → Table → Bool
  | ⟨_, n, s, r, t, dt, a⟩, ⟨_, n', s', r', t', dt', a'⟩ =>
    n == n' && sameOptionalSchemaContent s s' && r == r' && t == t' && dt == dt' &&
      sameAttributeContent a a'
termination_by structural a => a

def sameColumnContent : Column → Column → Bool
  | ⟨_, n1, r1, dt, n2, dv, r2, o, c, d, ai, a⟩,
    ⟨_, n1', r1', dt', n2', dv', r2', o', c', d', ai', a'⟩ =>
    n1 == n1' && sameOptionalTableContent r1 r1' && dt == dt' && n2 == n2' &&
      sameOptionalValueContent dv dv' && r2 == r2' && o == o' && c == c' && d == d' && ai == ai' &&
      sameAttributeContent a a'
termination_by structural a => a

def sameIndexContent : Index → Index → Bool
  | ⟨_, n, t, os, c1, u, c2, a⟩, ⟨_, n', t', os', c1', u', c2', a'⟩ =>
    n == n' && sameOptionalTableContent t t' && sameOptionalSchemaContent os os' &&
      sameColumnContents c1 c1' && u == u' && c2 == c2' && sameAttributeContent a a'
termination_by structural a => a

def samePrimaryKeyContent : PrimaryKey → PrimaryKey → Bool
  | ⟨_, n, t, c, bi, a⟩, ⟨_, n', t', c', bi', a'⟩ =>
    n == n' && sameOptionalTableContent t t' && sameColumnContents c c' &&
      sameOptionalIndexContent bi bi' && sameAttributeContent a a'
termination_by structural a => a

def sameForeignKeyContent : ForeignKey → ForeignKey → Bool
  | ⟨_, n, ft, fc, pt, pc, ur, dr, d, id, v, bi, a⟩,
    ⟨_, n', ft', fc', pt', pc', ur', dr', d', id', v', bi', a'⟩ =>
    n == n' && sameOptionalTableContent ft ft' && sameColumnContents fc fc' &&
      sameOptionalTableContent pt pt' && sameColumnContents pc pc' && ur == ur' && dr == dr' &&
      d == d' && id == id' && v == v' && sameOptionalIndexContent bi bi' &&
      sameAttributeContent a a'
termination_by structural a => a

def sameUniqueConstraintContent : UniqueConstraint → UniqueConstraint → Bool
  | ⟨_, n, t, os, c1, d1, id, d2, c2, bi, a⟩, ⟨_, n', t', os', c1', d1', id', d2', c2', bi', a'⟩ =>
    n == n' && sameOptionalTableContent t t' && sameOptionalSchemaContent os os' &&
      sameColumnContents c1 c1' && d1 == d1' && id == id' && d2 == d2' && c2 == c2' &&
      sameOptionalIndexContent bi bi' && sameAttributeContent a a'
termination_by structural a => a

/-- Objects of one kind that hold the same content. -/
def sameObjectContent : Object → Object → Bool
  | .catalog a, .catalog b => sameCatalogContent a b
  | .schema a, .schema b => sameSchemaContent a b
  | .table a, .table b => sameTableContent a b
  | .column a, .column b => sameColumnContent a b
  | .index a, .index b => sameIndexContent a b
  | .primaryKey a, .primaryKey b => samePrimaryKeyContent a b
  | .foreignKey a, .foreignKey b => sameForeignKeyContent a b
  | .uniqueConstraint a, .uniqueConstraint b => sameUniqueConstraintContent a b
  | _, _ => false
termination_by structural a => a

end

end SchemaDelta

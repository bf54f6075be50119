import SchemaDelta.Dialect
import SchemaDelta.Object.Content
import SchemaDelta.Object.Instance

/-!
# Criteria of equal values

A criterion decides whether two attribute values agree. When both values are unset they
agree, when one is they do not; a criterion itself only judges two values that are set.
Some criteria are made for values of one type and fail on others.
-/

namespace SchemaDelta

/-- A defect in what was handed to a comparison, never a difference that was found. -/
inductive CompareError where
  /-- A rule was applied to an object of a kind that it is not made for. -/
  | unsupportedKind (rule : String) (kind : Kind)
  /-- A value was not of the type that a criterion is made for. -/
  | attributeType (field : Field) (expected found : String)
  deriving DecidableEq

namespace CompareError

def message : CompareError → String
  | unsupportedKind rule kind => s!"Comparator '{rule}' does not handle {kind.name} objects"
  | attributeType field expected found =>
    s!"Attribute '{field.text}' expected {expected}, found {found}"

/-- A value of the wrong type, while its field is not known. -/
def mismatch (expected found : String) : CompareError := attributeType .this expected found

/-- The same error with the field it arose on. -/
def onField (f : Field) : CompareError → CompareError
  | attributeType _ expected found => attributeType f expected found
  | e => e

end CompareError

/-- The test of two values that are set. -/
abbrev Criterion := Value → Value → Except CompareError Bool

namespace Criterion

/-- The test of two values that may be unset. -/
def onOptional (test : Criterion) (a b : Option Value) : Except CompareError Bool :=
  match a, b with
  | none, none => .ok true
  | some a, some b => test a b
  | _, _ => .ok false

/-- Elements agree pairwise; the first pair that does not, or fails, decides. -/
def pairwise (test : Criterion) : List Value → List Value → Except CompareError Bool
  | a :: as, b :: bs => do
    if ← test a b then pairwise test as bs else return false
  | _, _ => .ok true

/-- The items of a list. -/
def items (v : Value) : Except CompareError (List Value) :=
  match v with
  | .list vs => .ok vs
  | v => .error (.mismatch "list" v.typeName)

mutual

/-- Objects agree when they are judged the same, numbers by value, lists item by item, and all
else by content. -/
def standard (sameObject : Object → Object → Except CompareError Bool) : Criterion
  | .object a, .object b => sameObject a b
  | .number a, .number b => .ok (a.equalByValue b)
  | .list as, .list bs =>
    if as.length == bs.length then standardItems sameObject as bs else .ok false
  | a, b => .ok (sameContent a b)

def standardItems (sameObject : Object → Object → Except CompareError Bool) :
    List Value → List Value → Except CompareError Bool
  | a :: as, b :: bs => do
    if ← standard sameObject a b then standardItems sameObject as bs else return false
  | _, _ => .ok true

end

/-- The name that a value goes by among objects of a kind. -/
def shownName (d : Dialect) (kind : Kind) : Value → Option String
  | .object o => o.name.map d.correctName
  | v => some (if kind == .column then d.correctName v.display else v.display)

/-- Names agree as the dialect has it; an object goes by its name, any other value by its text. -/
def namesAgree (d : Dialect) (a b : Option String) : Bool :=
  match a, b with
  | none, none => true
  | some a, some b => d.namesEqual a b
  | _, _ => false

mutual

/-- Values agree by name, lists item by item. -/
def byName (kind : Kind) (d : Dialect) : Criterion
  | .list as, .list bs =>
    if as.length == bs.length then byNameItems kind d as bs else .ok false
  | .list _, _ => .ok false
  | _, .list _ => .ok false
  | a, b => .ok (namesAgree d (shownName d kind a) (shownName d kind b))

def byNameItems (kind : Kind) (d : Dialect) :
    List Value → List Value → Except CompareError Bool
  | a :: as, b :: bs => do
    if ← byName kind d a b then byNameItems kind d as bs else return false
  | _, _ => .ok true

end

/-- Values agree by their written forms. -/
def byText (caseSensitive : Bool) : Criterion := fun a b =>
  .ok (if caseSensitive then a.display == b.display else Text.sameIgnoringCase a.display b.display)

/-- Two data types are compatible: one name, and no different parameters where both have some. -/
def compatibleTypes (a b : DataType) : Bool :=
  Text.sameIgnoringCase a.name b.name &&
    (!(a.hasParameters && b.hasParameters) || Text.sameIgnoringCase a.text b.text)

/-- Data types agree when they are compatible; made for data types only. -/
def dataType : Criterion
  | .dataType a, .dataType b => .ok (compatibleTypes a b)
  | .dataType _, b => .error (.mismatch "dataType" b.typeName)
  | a, _ => .error (.mismatch "dataType" a.typeName)

/-- Values agree when they hold the same content. -/
def structural : Criterion := fun a b => .ok (sameContent a b)

/-- Lists of one length agree element by element; made for lists only. -/
def ordered (element : Criterion) : Criterion := fun a b => do
  let as ← items a
  let bs ← items b
  if as.length == bs.length then pairwise element as bs else return false

/-- The place of the first element that agrees with `a`. -/
def firstMatch? (test : Criterion) (a : Value) : List Value → Except CompareError (Option Nat)
  | [] => .ok none
  | b :: bs => do
    if ← test a b then return some 0
    else return (← firstMatch? test a bs).map (· + 1)

/-- Take out the element at a place; the last one moves up into the gap. -/
def takeOut (bs : List Value) (i : Nat) : List Value :=
  match bs.getLast? with
  | none => []
  | some last => if i + 1 == bs.length then bs.dropLast else bs.dropLast.set i last

/-- Match every element of the first list with one of the second that is still free. -/
def matchAll (test : Criterion) : List Value → List Value → Except CompareError Bool
  | [], _ => .ok true
  | a :: as, free => do
    match ← firstMatch? test a free with
    | some i => matchAll test as (takeOut free i)
    | none => return false

/-- Lists of one length agree in any order; made for lists only. -/
def unordered (element : Criterion) : Criterion := fun a b => do
  let as ← items a
  let bs ← items b
  if as.length == bs.length then matchAll element as bs else return false

/-- The name of a listed column, trimmed, empty when there is none. -/
def columnName (v : Value) : Except CompareError String :=
  match v with
  | .object o => .ok (Text.trim (o.name.getD ""))
  | v => .error (.mismatch "object" v.typeName)

def columnNamesPairwise : List Value → List Value → Except CompareError Bool
  | a :: as, b :: bs => do
    if Text.sameIgnoringCase (← columnName a) (← columnName b) then columnNamesPairwise as bs
    else return false
  | _, _ => .ok true

/-- Column lists agree by the trimmed names of their columns, in order and ignoring case; made for
lists of objects only. -/
def columnNames : Criterion
  | .list as, .list bs =>
    if as.length == bs.length then columnNamesPairwise as bs else .ok false
  | .list _, b => .error (.mismatch "list" b.typeName)
  | a, _ => .error (.mismatch "list" a.typeName)

end Criterion

end SchemaDelta

import SchemaDelta.Double
import SchemaDelta.Keyed

/-!
# JSON

JSON values as trees. An object keeps its members as written, repeated names included;
`settle?` turns it into the value it stands for, in which members are sorted by name
and of two with one name the later counts.

Some well-formed texts stand for no value: a number beyond the doubles, an escaped
half of a surrogate pair, or nesting deeper than a reader goes. They read as
`unreadable`, which nothing accepts, but which may occur where a text is skipped.
-/

namespace SchemaDelta

inductive Json where
  | null
  | bool (b : Bool)
  | integer (n : Int)
  /-- A floating point number. JSON has no text for one that is not finite. -/
  | float (x : Double) (finite : x.isFinite)
  | string (s : String)
  | array (items : List Json)
  | object (members : List (String × Json))
  | unreadable

namespace Json

mutual

def decEq : (a b : Json) → Decidable (a = b)
  | .null, b =>
    match b with
    | .null => isTrue rfl
    | .bool _ | .integer _ | .float _ _ | .string _ | .array _ | .object _ | .unreadable =>
      isFalse nofun
  | .bool a, b =>
    match b with
    | .bool b => decidable_of_iff (a = b) (by simp)
    | .null | .integer _ | .float _ _ | .string _ | .array _ | .object _ | .unreadable =>
      isFalse nofun
  | .integer a, b =>
    match b with
    | .integer b => decidable_of_iff (a = b) (by simp)
    | .null | .bool _ | .float _ _ | .string _ | .array _ | .object _ | .unreadable => isFalse nofun
  | .float a _, b =>
    match b with
    | .float b _ => decidable_of_iff (a = b) (by simp)
    | .null | .bool _ | .integer _ | .string _ | .array _ | .object _ | .unreadable => isFalse nofun
  | .string a, b =>
    match b with
    | .string b => decidable_of_iff (a = b) (by simp)
    | .null | .bool _ | .integer _ | .float _ _ | .array _ | .object _ | .unreadable =>
      isFalse nofun
  | .array a, b =>
    match b with
    | .array b =>
      have := decEqItems a b
      decidable_of_iff (a = b) (by simp)
    | .null | .bool _ | .integer _ | .float _ _ | .string _ | .object _ | .unreadable =>
      isFalse nofun
  | .object a, b =>
    match b with
    | .object b =>
      have := decEqMembers a b
      decidable_of_iff (a = b) (by simp)
    | .null | .bool _ | .integer _ | .float _ _ | .string _ | .array _ | .unreadable =>
      isFalse nofun
  | .unreadable, b =>
    match b with
    | .unreadable => isTrue rfl
    | .null | .bool _ | .integer _ | .float _ _ | .string _ | .array _ | .object _ => isFalse nofun

def decEqItems : (a b : List Json) → Decidable (a = b)
  | [], [] => isTrue rfl
  | x :: xs, y :: ys =>
    match decEq x y with
    | isTrue h =>
      have := decEqItems xs ys
      decidable_of_iff (xs = ys) (by simp [h])
    | isFalse h => isFalse (by simp [h])
  | [], _ :: _ => isFalse nofun
  | _ :: _, [] => isFalse nofun

def decEqMembers : (a b : List (String × Json)) → Decidable (a = b)
  | [], [] => isTrue rfl
  | (k, x) :: xs, (l, y) :: ys =>
    if hk : k = l then
      match decEq x y with
      | isTrue h =>
        have := decEqMembers xs ys
        decidable_of_iff (xs = ys) (by simp [h, hk])
      | isFalse h => isFalse (by simp [h])
    else isFalse (by simp [hk])
  | [], _ :: _ => isFalse nofun
  | _ :: _, [] => isFalse nofun

end

instance : DecidableEq Json := decEq

/-- The value of a floating point number; one that is not finite has none. -/
def ofDouble (x : Double) : Json := if h : x.isFinite then .float x h else .unreadable

def isNull : Json → Bool
  | .null => true
  | _ => false

mutual

/-- The value that a tree stands for, if every part of it has one. -/
def settle? : Json → Option Json
  | .null => some .null
  | .bool b => some (.bool b)
  | .integer n => some (.integer n)
  | .float x h => some (.float x h)
  | .string s => some (.string s)
  | .array items => (settleItems? items).map .array
  | .object members => (settleMembers? members).map fun ms => .object (Keyed.ofList ms)
  | .unreadable => none

def settleItems? : List Json → Option (List Json)
  | [] => some []
  | j :: rest =>
    match settle? j, settleItems? rest with
    | some j, some rest => some (j :: rest)
    | _, _ => none

def settleMembers? : List (String × Json) → Option (List (String × Json))
  | [] => some []
  | (k, j) :: rest =>
    match settle? j, settleMembers? rest with
    | some j, some rest => some ((k, j) :: rest)
    | _, _ => none

end

def string? : Json → Option String
  | .string s => some s
  | _ => none

def bool? : Json → Option Bool
  | .bool b => some b
  | _ => none

/-- A whole number of 64 bits with a sign. -/
def int64? : Json → Option Int
  | .integer n => if Int64.minValue.toInt ≤ n && n ≤ Int64.maxValue.toInt then some n else none
  | _ => none

/-- A natural number below a bound. -/
def natBelow? (bound : Nat) : Json → Option Nat
  | .integer n => if 0 ≤ n && n < bound then some n.toNat else none
  | _ => none

/-- The items of an array, all of which are accepted by `read`. -/
def listOf? {α : Type} (read : Json → Option α) : Json → Option (List α)
  | .array items => items.mapM read
  | _ => none

/-- The members of an object as written, all of which are accepted by `read`. -/
def membersOf? {α : Type} (read : Json → Option α) : Json → Option (List (String × α))
  | .object members => members.mapM fun m => (read m.2).map fun v => (m.1, v)
  | _ => none

/-- The members of an object, sorted by name; every one, also one that is replaced later, is
accepted by `read`. -/
def mapOf? {α : Type} (read : Json → Option α) (j : Json) : Option (List (String × α)) :=
  (membersOf? read j).map Keyed.ofList

/-- A choice among names: the name itself, or an object with nothing but that name. -/
def choice? {α : Type} (ofName? : String → Option α) : Json → Option α
  | .string s => ofName? s
  | .object [(s, .null)] => ofName? s
  | _ => none

end Json

end SchemaDelta

import SchemaDelta.Double
import SchemaDelta.Text.Class

/-!
# Double precision numbers as text

A number is written with the fewest decimal digits that read back as the same
number, the nearest such digits. There are two layouts: the plain one never uses an
exponent and rounds up where two digits are equally near; the data layout always shows a
fraction, uses an exponent for very large and very small numbers, and takes the even of
two digits that are equally near.
-/

namespace SchemaDelta.Double

/-- Digits `d` and a place `p` that stand for `d · 10 ^ p`. -/
structure Digits where
  digits : Nat
  place : Int
  deriving DecidableEq

/-- Which of two neighbors that are equally near is written. -/
inductive Tie where
  | up
  | even
  deriving DecidableEq

/-- Whether the lower of two neighbors that are equally near is written. -/
def Tie.down (t : Tie) (lower : Nat) : Bool := t == .even && lower % 2 == 0

/-- The decimal exponent `x` with `10 ^ x ≤ num / den < 10 ^ (x + 1)`. -/
def decimalExponent (num den : Nat) : Int :=
  if den ≤ num then ((Nat.toDigits 10 (num / den)).length : Int) - 1
  else
    let c := (den + num - 1) / num
    if c ≤ 1 then 0 else -((Nat.toDigits 10 (c - 1)).length : Int)

/-- Four times the number, and the bounds of the reals that round to it, over one denominator. -/
def roundingInterval (m : Nat) (e : Int) : Nat × Nat × Nat × Nat :=
  let below := if m == twoPow 52 && minExponent < e then 1 else 2
  let (unit, den) := fraction 1 e
  ((4 * m - below) * unit, 4 * m * unit, (4 * m + 2) * unit, 4 * den)

/-- The point of the grid `10 ^ p` that reads back as the number, if there is one; of two the
nearer. -/
def gridPoint? (tie : Tie) (m : Nat) (e : Int) (p : Int) : Option Digits :=
  let (low, value, high, den) := roundingInterval m e
  let (up, down) := if 0 ≤ p then (1, tenPow p.toNat) else (tenPow (-p).toNat, 1)
  let closed := m % 2 == 0
  let grid := den * down
  let inside (k : Nat) : Bool :=
    let x := k * grid
    if closed then low * up ≤ x && x ≤ high * up else low * up < x && x < high * up
  let k := value * up / grid
  let past := 2 * (value * up - k * grid)
  let nearer := if past < grid || (past == grid && tie.down k) then k else k + 1
  let other := if nearer == k then k + 1 else k
  if inside nearer then some ⟨nearer, p⟩
  else if inside other then some ⟨other, p⟩
  else none

/-- The same number with a final zero moved into the place. -/
def Digits.dropZero (d : Digits) : Digits :=
  if d.digits % 10 == 0 then ⟨d.digits / 10, d.place + 1⟩ else d

/-- The fewest digits that read back as `m · 2 ^ e`. A number just below a power of ten can meet its
first grid at that power, as `10`; this is the one case with a zero to drop. -/
def shortest (tie : Tie) (m : Nat) (e : Int) : Digits :=
  let (num, den) := fraction m e
  let x := decimalExponent num den
  (((List.range 17).findSome? fun (k : Nat) => gridPoint? tie m e (x - k)).getD ⟨m, e⟩).dropZero

/-- A digit text with a point `places` digits before its end. -/
def placePoint (digits : List Char) (places : Nat) : List Char :=
  let padded := List.replicate (places + 1 - digits.length) '0' ++ digits
  let whole := padded.length - places
  padded.take whole ++ '.' :: padded.drop whole

/-- The sign, then the digits, without an exponent. -/
def plainChars : Double → List Char
  | .nan => "NaN".toList
  | .infinite s => (if s then "-inf" else "inf").toList
  | .finite s m e =>
    let body :=
      if m == 0 then ['0']
      else
        let d := shortest .up m e
        let text := Nat.toDigits 10 d.digits
        if 0 ≤ d.place then text ++ List.replicate d.place.toNat '0'
        else placePoint text (-d.place).toNat
    if s then '-' :: body else body

/-- The plain layout: positional, without a fraction when there is none. -/
def plain (x : Double) : String := String.ofList (plainChars x)

/-- The digits of the data layout, from 10⁻⁵ up to 10¹⁶ positionally. -/
def dataDigits (d : Digits) : List Char :=
  let text := Nat.toDigits 10 d.digits
  let exponent := d.place + text.length - 1
  if -5 ≤ exponent && exponent ≤ 15 then
    if 0 ≤ d.place then text ++ List.replicate d.place.toNat '0' ++ ['.', '0']
    else placePoint text (-d.place).toNat
  else
    let lead := match text with
      | [] => []
      | [c] => [c]
      | c :: rest => c :: '.' :: rest
    lead ++ 'e' :: (if exponent < 0 then '-' else '+') :: Nat.toDigits 10 exponent.natAbs

/-- The data layout; only finite numbers have one. -/
def data : Double → String
  | .finite s m e =>
    let body := if m == 0 then "0.0".toList else dataDigits (shortest .even m e)
    String.ofList (if s then '-' :: body else body)
  | x => plain x

/-- Digits and the number of them that follow the point. -/
def splitFraction (cs : List Char) : List Char × Nat × Bool :=
  let whole := cs.takeWhile Char.isDigit
  match cs.dropWhile Char.isDigit with
  | '.' :: rest => (whole ++ rest, rest.length, rest.all Char.isDigit && !(whole ++ rest).isEmpty)
  | rest => (whole, 0, rest.isEmpty && !whole.isEmpty)

/-- An optional sign; `true` stands for a minus. -/
def splitSign : List Char → Bool × List Char
  | '-' :: cs => (true, cs)
  | '+' :: cs => (false, cs)
  | cs => (false, cs)

/-- Read a decimal text with an optional fraction and exponent, or the name of a special value. -/
def parse? (s : String) : Option Double :=
  let (negative, cs) := splitSign s.toList
  let word := String.ofList (cs.map Char.toLower)
  if word == "nan" then some .nan
  else if word == "inf" || word == "infinity" then some (.infinite negative)
  else
    let isMark (c : Char) : Bool := c == 'e' || c == 'E'
    let (digits, places, ok) := splitFraction (cs.takeWhile fun c => !isMark c)
    let exponent? : Option Int :=
      match cs.dropWhile fun c => !isMark c with
      | [] => some 0
      | _ :: rest =>
        let (down, ds) := splitSign rest
        if ds.isEmpty then none
        else (Text.digitsValue? ds).map fun n => if down then -(n : Int) else n
    match ok, Text.digitsValue? digits, exponent? with
    | true, some n, some x => some (ofScientific negative n (x - places))
    | _, _, _ => none

end SchemaDelta.Double

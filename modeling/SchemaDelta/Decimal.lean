import SchemaDelta.Double

/-!
# Fixed point decimals

A decimal is a coefficient of at most 96 bits with a scale of at most 28 places. The
scale is kept when a decimal is written, and ignored when two are compared.
-/

namespace SchemaDelta

/-- The number `± coefficient / 10 ^ scale`. -/
structure Decimal where
  negative : Bool
  coefficient : Nat
  scale : Nat
  deriving DecidableEq

namespace Decimal

/-- Coefficients stay below this bound. -/
def coefficientBound : Nat := twoPow 96

def maxScale : Nat := 28

/-- A decimal from its parts; a zero coefficient has no sign. -/
def ofParts (negative : Bool) (coefficient scale : Nat) : Decimal :=
  ⟨negative && coefficient != 0, coefficient, scale⟩

def ofInt (n : Int) : Decimal := ofParts (decide (n < 0)) n.natAbs 0

/-- Equality of values: neither the scale nor the sign of zero counts. -/
def same (a b : Decimal) : Bool :=
  a.coefficient * tenPow b.scale == b.coefficient * tenPow a.scale &&
    (a.negative == b.negative || a.coefficient == 0)

/-- The digits with as many places as the scale has. -/
def textChars (d : Decimal) : List Char :=
  let digits := Nat.toDigits 10 d.coefficient
  let body :=
    if d.scale == 0 then digits
    else
      let padded := List.replicate (d.scale + 1 - digits.length) '0' ++ digits
      let whole := padded.length - d.scale
      padded.take whole ++ '.' :: padded.drop whole
  if d.negative then '-' :: body else body

def text (d : Decimal) : String := String.ofList d.textChars

/-- The nearest double. -/
def toDouble (d : Decimal) : Double := Double.ofScientific d.negative d.coefficient (-d.scale)

/-- Divide by `2 ^ steps` with a decimal exponent: halve while even, else multiply by five and
lower the exponent; a coefficient too large for that loses its last bit. -/
def divideByTwos : Nat → Nat → Int → Nat × Int
  | 0, c, x => (c, x)
  | steps + 1, c, x =>
    if c % 2 == 0 then divideByTwos steps (c / 2) x
    else if 5 * c < coefficientBound then divideByTwos steps (5 * c) (x - 1)
    else divideByTwos steps (c / 2) x

/-- Drop `steps` digits, rounding each time on the digit dropped; nothing is left of a zero. -/
def dropDigits : Nat → Nat → Option Nat
  | 0, c => some c
  | steps + 1, c =>
    if c / 10 == 0 then none
    else dropDigits steps (if 5 ≤ c % 10 then c / 10 + 1 else c / 10)

/-- The decimal that keeps the digits of a double as far as the coefficient has room; none when the
double is not finite or too large. A double too small for the scale leaves a zero of its sign. -/
def ofDouble? : Double → Option Decimal
  | .finite s m e =>
    if e < 0 then
      let (c, x) := divideByTwos (-e).toNat m 0
      let places := (-x).toNat
      match dropDigits (places - maxScale) c with
      | some c => some ⟨s, c, min places maxScale⟩
      | none => some ⟨s, 0, 0⟩
    else
      let c := m * twoPow e.toNat
      if c < coefficientBound then some ⟨s, c, 0⟩ else none
  | _ => none

/-- Let the character behind the last digit that has room decide: half and above round up. A point
or an underscore there counts as a zero, and what follows is not looked at. -/
def roundLast (negative : Bool) (c scale : Nat) (next : Char) : Option Decimal :=
  let up := '5' ≤ next && next ≤ '9'
  if !(next.isDigit || next == '_' || next == '.') then none
  else if !up then some (ofParts negative c scale)
  else if c + 1 < coefficientBound then some (ofParts negative (c + 1) scale)
  else if scale == 0 then none
  else some (ofParts negative ((c + 5) / 10) (scale - 1))

/-- Coefficients below this bound have room for another digit in one word of 64 bits. -/
def wordBound : Nat := twoPow 64 / 10 - 255

/-- Read digits into a coefficient. Once all places are used the next character decides on rounding;
underscores are passed over first if the coefficient has outgrown one word. -/
def readDigits (negative point : Bool) (c scale : Nat) : List Char → Option Decimal
  | [] => some (ofParts negative c scale)
  | d :: rest =>
    if point && maxScale ≤ scale && (c < 10 * wordBound || d != '_') then
      roundLast negative c scale d
    else if d == '_' then readDigits negative point c scale rest
    else if d == '.' then
      if point then none else readDigits negative true c scale rest
    else if d.isDigit then
      let next := 10 * c + (d.toNat - 48)
      if next < coefficientBound then
        readDigits negative point next (if point then scale + 1 else scale) rest
      else if point then roundLast negative c scale d
      else none
    else none

/-- Read a decimal text: an optional sign, digits and at most one point. Underscores may follow the
first digit. -/
def parse? (s : String) : Option Decimal :=
  let (negative, cs) : Bool × List Char := match s.toList with
    | '-' :: cs => (true, cs)
    | '+' :: cs => (false, cs)
    | cs => (false, cs)
  let lead := cs.takeWhile fun c => !c.isDigit
  if cs.any Char.isDigit && !lead.contains '_' then readDigits negative false 0 0 cs
  else none

end Decimal

end SchemaDelta

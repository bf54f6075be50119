/-!
# Double precision numbers

Binary floating point numbers with 53 significant bits, as exact data: every finite
number is `± mantissa · 2 ^ exponent`, and all arithmetic is done on natural numbers
and rounded once, to the nearest number, a tie going to the even mantissa.
-/

namespace SchemaDelta

/-- A power of two. -/
def twoPow (n : Nat) : Nat := Nat.pow 2 n

/-- A power of ten. -/
def tenPow (n : Nat) : Nat := Nat.pow 10 n

/-- A number of the binary64 format. -/
inductive Double where
  | nan
  | infinite (negative : Bool)
  /-- The number `mantissa · 2 ^ exponent`, with its sign. -/
  | finite (negative : Bool) (mantissa : Nat) (exponent : Int)
  deriving DecidableEq

namespace Double

/-- The least exponent of a finite number. -/
def minExponent : Int := -1074

/-- The greatest exponent of a finite number. -/
def maxExponent : Int := 971

def zero (negative : Bool) : Double := .finite negative 0 minExponent

/-- The quotient rounded to the nearest natural number, a tie to the even one. -/
def roundQuotient (num den : Nat) : Nat :=
  let q := num / den
  let twice := 2 * (num % den)
  if den < twice || (twice == den && q % 2 == 1) then q + 1 else q

/-- `num / den` as a fraction of `2 ^ e`. -/
def inUnits (num den : Nat) (e : Int) : Nat × Nat :=
  if 0 ≤ e then (num, den * twoPow e.toNat) else (num * twoPow (-e).toNat, den)

/-- The exponent at which `num / den` has 53 significant bits. -/
def exponentOf (num den : Nat) : Int :=
  let e : Int := num.log2 - den.log2 - 53
  let (n, d) := inUnits num den e
  if n / d < twoPow 53 then e else e + 1

/-- The number nearest to `± num / den`. -/
def ofRatio (negative : Bool) (num den : Nat) : Double :=
  if num == 0 then zero negative
  else
    let e := max (exponentOf num den) minExponent
    let (n, d) := inUnits num den e
    let m := roundQuotient n d
    let (m, e) := if m == twoPow 53 then (twoPow 52, e + 1) else (m, e)
    if maxExponent < e then .infinite negative else .finite negative m e

/-- The number nearest to `± digits · 10 ^ exponent`. -/
def ofScientific (negative : Bool) (digits : Nat) (exponent : Int) : Double :=
  let magnitude := (Nat.toDigits 10 digits).length + exponent
  if digits == 0 || magnitude < -330 then zero negative
  else if 310 < magnitude then .infinite negative
  else if 0 ≤ exponent then ofRatio negative (digits * tenPow exponent.toNat) 1
  else ofRatio negative digits (tenPow (-exponent).toNat)

def ofNat (n : Nat) : Double := ofRatio false n 1

def ofInt (n : Int) : Double := ofRatio (decide (n < 0)) n.natAbs 1

def neg : Double → Double
  | .nan => .nan
  | .infinite s => .infinite !s
  | .finite s m e => .finite (!s) m e

/-- Neither infinite nor `nan`. -/
def isFinite : Double → Bool
  | .finite .. => true
  | _ => false

def isInfinite : Double → Bool
  | .infinite _ => true
  | _ => false

def isZero : Double → Bool
  | .finite _ 0 _ => true
  | _ => false

/-- `m · 2 ^ e` as a fraction. -/
def fraction (m : Nat) (e : Int) : Nat × Nat :=
  if 0 ≤ e then (m * twoPow e.toNat, 1) else (m, twoPow (-e).toNat)

/-- The product with a power of ten, which is itself rounded first. -/
def timesTenPow (x : Double) (k : Nat) : Double :=
  match x, ofNat (tenPow k) with
  | .finite s m e, .finite _ m' e' =>
    let (n, d) := fraction (m * m') (e + e')
    ofRatio s n d
  | x, _ => x

/-- The quotient by a power of ten, which is itself rounded first. -/
def overTenPow (x : Double) (k : Nat) : Double :=
  match x, ofNat (tenPow k) with
  | .finite s m e, .finite _ m' e' =>
    let (n, d) := fraction m (e - e')
    ofRatio s n (d * m')
  | x, _ => x

/-- Numerical equality: no number equals `nan`, and both zeros are equal. -/
def same : Double → Double → Bool
  | .infinite s, .infinite t => s == t
  | .finite s m e, .finite t m' e' =>
    let low := min e e'
    m * twoPow (e - low).toNat == m' * twoPow (e' - low).toNat && (s == t || m == 0)
  | _, _ => false

end Double

end SchemaDelta

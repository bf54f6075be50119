import SchemaDelta.Decimal
import SchemaDelta.Double.Text

/-!
# Numbers

A number in the width its source gave it. Numbers of different widths are compared
through decimals when both have one, through doubles otherwise.
-/

namespace SchemaDelta

/-- A number in one of four widths. -/
inductive Number where
  | int (n : Int)
  | uint (n : Nat)
  | float (x : Double)
  | decimal (d : Decimal)
  deriving DecidableEq

namespace Number

/-- The decimal of the same value; none for a double that is too large or not finite. -/
def toDecimal? : Number → Option Decimal
  | .int n => some (.ofInt n)
  | .uint n => some (.ofInt n)
  | .float x => Decimal.ofDouble? x
  | .decimal d => some d

def toDouble : Number → Double
  | .int n => .ofInt n
  | .uint n => .ofNat n
  | .float x => x
  | .decimal d => d.toDouble

/-- Equality by value, whatever the widths. -/
def equalByValue (a b : Number) : Bool :=
  match a.toDecimal?, b.toDecimal? with
  | some x, some y => x.same y
  | _, _ => a.toDouble.same b.toDouble

/-- Equality within one width; numbers of different widths are never the same. -/
def same : Number → Number → Bool
  | .int a, .int b => a == b
  | .uint a, .uint b => a == b
  | .float a, .float b => a.same b
  | .decimal a, .decimal b => a.same b
  | _, _ => false

def text : Number → String
  | .int n => toString n
  | .uint n => toString n
  | .float x => x.plain
  | .decimal d => d.text

end Number

end SchemaDelta

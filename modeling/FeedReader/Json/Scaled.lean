/-!
# Scaled numbers

A number as its significand and a power of ten, and whether it is within the
finite numbers of 64-bit floating point.  The significand and the power are
rounded to 53 bits each before they are multiplied, so very near the bound the
verdict may differ from that on the exact product.
-/

namespace FeedReader.Json

structure Scaled where
  significand : Nat
  exponent : Int
  deriving DecidableEq, Repr

/-- The nearest multiple of `unit`; of two the even one. -/
def roundTo (unit n : Nat) : Nat :=
  let low := n / unit
  let excess := 2 * (n % unit)
  if excess < unit ∨ (excess = unit ∧ low % 2 = 0) then low * unit else (low + 1) * unit

def round53 (n : Nat) : Nat := roundTo (Nat.pow 2 (n.log2 - 52)) n

/-- Half a unit above the largest finite number. -/
def infinityBound : Nat := (Nat.pow 2 54 - 1) * Nat.pow 2 970

def maxPower : Nat := 308

/-- A negative power never makes a number too large. -/
def Scaled.isInfinite (x : Scaled) : Bool :=
  x.significand ≠ 0 && 0 ≤ x.exponent &&
    (maxPower < x.exponent ||
      infinityBound ≤ round53 x.significand * round53 (Nat.pow 10 x.exponent.toNat))

end FeedReader.Json

/-!
# Binary floating point numbers

Numbers of 64 and 32 bits by their bit patterns: a sign, an exponent field and a fraction.  A
finite number is `significand * 2 ^ scale`.  Every number of 32 bits is one of 64 bits.
-/

namespace Criteria
namespace Decimal

def twoTo (n : Nat) : Nat :=
  Nat.pow 2 n

def tenTo (n : Nat) : Nat :=
  Nat.pow 10 n

structure Binary64 where
  bits : UInt64
deriving DecidableEq, Repr

structure Binary32 where
  bits : UInt32
deriving DecidableEq, Repr

namespace Binary64

def isNegative (x : Binary64) : Bool :=
  twoTo 63 ≤ x.bits.toNat

def exponentField (x : Binary64) : Nat :=
  x.bits.toNat / twoTo 52 % twoTo 11

def fraction (x : Binary64) : Nat :=
  x.bits.toNat % twoTo 52

def isInfinite (x : Binary64) : Bool :=
  x.exponentField == 2047 && x.fraction == 0

def isNaN (x : Binary64) : Bool :=
  x.exponentField == 2047 && x.fraction != 0

def significand (x : Binary64) : Nat :=
  if x.exponentField = 0 then x.fraction else twoTo 52 + x.fraction

def scale (x : Binary64) : Int :=
  if x.exponentField = 0 then -1074 else (x.exponentField : Int) - 1075

def isNarrowBelow (x : Binary64) : Bool :=
  x.fraction == 0 && 1 < x.exponentField

def ofFields (negative : Bool) (exponentField fraction : Nat) : Binary64 :=
  ⟨UInt64.ofNat ((if negative then twoTo 63 else 0) + exponentField * twoTo 52 + fraction)⟩

end Binary64

/-!
# Widening
-/

namespace Binary32

def isNegative (x : Binary32) : Bool :=
  twoTo 31 ≤ x.bits.toNat

def exponentField (x : Binary32) : Nat :=
  x.bits.toNat / twoTo 23 % twoTo 8

def fraction (x : Binary32) : Nat :=
  x.bits.toNat % twoTo 23

/-- The same number in 64 bits.  A number below the normal range of 32 bits is normal in 64, and
a NaN becomes a quiet one. -/
def widen (x : Binary32) : Binary64 :=
  let f := x.fraction
  let exponentAndFraction :=
    if x.exponentField = 255 then
      if f = 0 then (2047, 0) else (2047, f * twoTo 29 % twoTo 51 + twoTo 51)
    else if x.exponentField = 0 then
      if f = 0 then (0, 0) else (f.log2 + 874, (f - twoTo f.log2) * twoTo (52 - f.log2))
    else
      (x.exponentField + 896, f * twoTo 29)
  .ofFields x.isNegative exponentAndFraction.1 exponentAndFraction.2

end Binary32

end Decimal
end Criteria

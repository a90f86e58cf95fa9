import Criteria.Decimal.Binary

/-!
# Shortest decimals

The decimal of fewest digits that reads back as a given finite number, the nearest of these to
it, found by exact arithmetic: on the grid of `n` digits, for `n` from one to seventeen, the two
neighbours of the number are tested.  Halfway between the two, the upper one is taken.
-/

namespace Criteria
namespace Decimal

structure Shortest where
  digits : Nat
  exponent : Int
deriving DecidableEq, Repr

/-- A number between two bounds, all over one denominator.  The numbers that read back as it lie
between the bounds; the bounds do too if the interval is closed. -/
structure Interval where
  lower : Nat
  value : Nat
  upper : Nat
  denominator : Nat
  closed : Bool

namespace Interval

def ofBinary (x : Binary64) : Interval :=
  let m := x.significand
  let unit := x.scale - 2
  let up := twoTo unit.toNat
  { lower := (4 * m - (if x.isNarrowBelow then 1 else 2)) * up
    value := 4 * m * up
    upper := (4 * m + 2) * up
    denominator := twoTo (-unit).toNat
    closed := m % 2 == 0 }

def inUnits (i : Interval) (exponent : Int) : Interval :=
  let up := tenTo (-exponent).toNat
  { i with
    lower := i.lower * up
    value := i.value * up
    upper := i.upper * up
    denominator := i.denominator * tenTo exponent.toNat }

def holds (i : Interval) (n : Nat) : Bool :=
  let x := n * i.denominator
  if i.closed then i.lower ≤ x && x ≤ i.upper else i.lower < x && x < i.upper

def whole? (i : Interval) : Option Nat :=
  let below := i.value / i.denominator
  let above := below + 1
  match i.holds below, i.holds above with
  | true, true =>
      if 2 * i.value < (below + above) * i.denominator then some below else some above
  | true, false => some below
  | false, true => some above
  | false, false => none

/-- The power of ten just above the value: `10 ^ (magnitude - 1) ≤ value < 10 ^ magnitude`. -/
def magnitude (i : Interval) : Int :=
  let places : Nat := 400
  ((Nat.toDigits 10 (i.value * tenTo places / i.denominator)).length : Int) - places

end Interval

def Binary64.shortest (x : Binary64) : Shortest :=
  let i := Interval.ofBinary x
  let onGrid := fun (n : Nat) =>
    let exponent := i.magnitude - (n + 1)
    ((i.inUnits exponent).whole?).map fun digits => Shortest.mk digits exponent
  ((List.range 17).findSome? onGrid).getD ⟨x.significand, 0⟩

/-!
# Text
-/

def Shortest.text (d : Shortest) : String :=
  let digits := Nat.toDigits 10 d.digits
  match d.exponent with
  | .ofNat zeros => String.ofList (digits ++ List.replicate zeros '0')
  | .negSucc n =>
      let places := n + 1
      let padded := List.replicate (places + 1 - digits.length) '0' ++ digits
      let fraction := (padded.reverse.take places).dropWhile (· == '0')
      let integral := (padded.reverse.drop places).reverse
      if fraction.isEmpty then
        String.ofList integral
      else
        String.ofList (integral ++ '.' :: fraction.reverse)

def Binary64.text (x : Binary64) : String :=
  if x.isNaN then
    "NaN"
  else
    let sign := if x.isNegative then "-" else ""
    if x.isInfinite then
      sign ++ "inf"
    else if x.significand = 0 then
      sign ++ "0"
    else
      sign ++ x.shortest.text

end Decimal
end Criteria

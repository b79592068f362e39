import SiteGen.Decimal.Binary64

/-!
# Shortest decimals

The decimal with the fewest digits that reads back as a given float.

The reals that round to `mantissa · 2 ^ exponent` form an interval, whose ends belong to it when the
mantissa is even.  `shortest` looks for a point of the grid of multiples of `10 ^ k` in the
interval, for smaller and smaller `k`; on the first grid that has one it takes the point nearest to
the float.  If a point of a grid lies in the interval, so does one of the two around the float, so
no shorter decimal is missed.
-/

namespace SiteGen.Decimal

/-- Which of two decimals is taken when both are equally near. -/
inductive Tie where
  /-- The larger one. -/
  | up
  /-- The one with an even last digit. -/
  | even
deriving DecidableEq, Repr

/-- The point of the grid of multiples of `10 ^ k` that is nearest to `mantissa · 2 ^ exponent`
among those that round to it, as a multiple of `10 ^ k`.  All comparisons are made on whole numbers,
in units of a quarter of the last place. -/
def gridPoint? (tie : Tie) (mantissa : Nat) (exponent k : Int) : Option Nat :=
  let unit := twoTo (exponent - 2).toNat * tenTo (-k).toNat
  let step := tenTo k.toNat * twoTo (2 - exponent).toNat
  let value := 4 * mantissa * unit
  let narrow := mantissa == Binary64.hiddenBit && exponent != Binary64.minExponent
  let low := (4 * mantissa - if narrow then 1 else 2) * unit
  let high := (4 * mantissa + 2) * unit
  let within := fun point =>
    if mantissa % 2 == 0 then decide (low ≤ point) && decide (point ≤ high)
    else decide (low < point) && decide (point < high)
  let below := value / step
  let above := below + 1
  match within (below * step), within (above * step) with
  | true, true =>
    let down := value - below * step
    let up := above * step - value
    if down < up then some below
    else if up < down then some above
    else match tie with
      | .up => some above
      | .even => some (if below % 2 == 0 then below else above)
  | true, false => some below
  | false, true => some above
  | false, false => none

/-- The first grid point found from `10 ^ k` downwards, with its exponent. -/
def searchGrids (tie : Tie) (mantissa : Nat) (exponent : Int) : Nat → Int → Option (Nat × Int)
  | 0, _ => none
  | fuel + 1, k =>
    match gridPoint? tie mantissa exponent k with
    | some n => some (n, k)
    | none => searchGrids tie mantissa exponent fuel (k - 1)

/-- A power of ten above `mantissa · 2 ^ exponent`, as its exponent. -/
def firstGrid (mantissa : Nat) (exponent : Int) : Int :=
  ((mantissa.log2 + 1 : Nat) + exponent) * 30103 / 100000 + 1

/-- The **shortest decimal** `n · 10 ^ k` that rounds to `mantissa · 2 ^ exponent`, as `(n, k)`. -/
def shortest (tie : Tie) (mantissa : Nat) (exponent : Int) : Nat × Int :=
  if mantissa = 0 then (0, 0)
  else (searchGrids tie mantissa exponent 24 (firstGrid mantissa exponent)).getD (0, 0)

end SiteGen.Decimal

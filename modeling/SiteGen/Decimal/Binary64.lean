/-!
# Binary floating point

A 64-bit float is not a number, an infinity, or a sign with a mantissa and a power of two.

* `Binary64.ofFloat` takes a float apart.
* `Binary64.magnitude` rounds a quotient of natural numbers to the nearest magnitude, a half going
  to the even neighbour, and gives its bits.
* `Binary64.ofDecimal` is the float nearest to a whole number times a power of ten.
-/

namespace SiteGen

/-- A power of two. -/
def twoTo (n : Nat) : Nat := Nat.pow 2 n

/-- A power of ten. -/
def tenTo (n : Nat) : Nat := Nat.pow 10 n

/-- The parts of a 64-bit float. -/
inductive Binary64 where
  /-- Not a number. -/
  | nan
  /-- An infinity. -/
  | infinite (negative : Bool)
  /-- The number `± mantissa · 2 ^ exponent`. -/
  | finite (negative : Bool) (mantissa : Nat) (exponent : Int)
deriving DecidableEq, Repr

namespace Binary64

/-- The exponent of the smallest positive magnitude. -/
def minExponent : Int := -1074

/-- The bit of the sign. -/
def signBit : Nat := 0x8000000000000000

/-- The bit above the stored bits of a mantissa, which is not stored itself. -/
def hiddenBit : Nat := 0x10000000000000

/-- The bits of positive infinity. -/
def infinityBits : Nat := 0x7FF0000000000000

/-- The parts written in the 64 bits `bits`. -/
def ofBits (bits : Nat) : Binary64 :=
  let negative := decide (signBit ≤ bits)
  let biased : Nat := bits / hiddenBit % 2048
  let fraction := bits % hiddenBit
  if biased = 2047 then
    if fraction = 0 then .infinite negative else .nan
  else if biased = 0 then .finite negative fraction minExponent
  else .finite negative (hiddenBit + fraction) ((biased : Int) - 1075)

/-- The parts of a float. -/
def ofFloat (x : Float) : Binary64 := ofBits x.toBits.toNat

/-- The exponent of the last place of the floats around `num / den`. -/
def placeExponent (num den : Nat) : Int :=
  let guess := (num.log2 : Int) - den.log2
  let reached := if 0 ≤ guess then decide (den * twoTo guess.toNat ≤ num)
    else decide (den ≤ num * twoTo (-guess).toNat)
  max ((if reached then guess else guess - 1) - 52) minExponent

/-- The quotient rounded to a whole number, a half going to the **even** neighbour. -/
def roundDiv (num den : Nat) : Nat :=
  let quotient := num / den
  let rest := num % den
  if den < 2 * rest || (2 * rest == den && quotient % 2 == 1) then quotient + 1 else quotient

/-- The bits of the magnitude **nearest** to `num / den`, or of infinity beyond the largest. -/
def magnitude (num den : Nat) : Nat :=
  if num = 0 then 0
  else
    let place := placeExponent num den
    let mantissa := roundDiv (num * twoTo (-place).toNat) (den * twoTo place.toNat)
    min ((place - minExponent).toNat * hiddenBit + mantissa) infinityBits

/-- The float with the given sign and magnitude. -/
def toFloat (negative : Bool) (bits : Nat) : Float :=
  Float.ofBits (UInt64.ofNat (if negative then signBit + bits else bits))

/-- A decimal exponent from which on every whole number is beyond the largest float. -/
def decimalLimit : Int := 400

/-- The bits of the magnitude nearest to `n · 10 ^ exponent`. -/
def decimalMagnitude (n : Nat) (exponent : Int) : Nat :=
  if n = 0 then 0
  else if decimalLimit < exponent then infinityBits
  else if exponent + (n.log2 / 3 + 1 : Nat) < -decimalLimit then 0
  else magnitude (n * tenTo exponent.toNat) (tenTo (-exponent).toNat)

/-- The float **nearest** to `± n · 10 ^ exponent`. -/
def ofDecimal (negative : Bool) (n : Nat) (exponent : Int) : Float :=
  toFloat negative (decimalMagnitude n exponent)

end Binary64

end SiteGen

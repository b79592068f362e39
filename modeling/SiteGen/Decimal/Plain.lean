import SiteGen.Decimal.Shortest

/-!
# Plain decimals

Numbers as they are written in generated files: without an exponent, with one fractional digit when
the value is whole and not too large.
-/

namespace SiteGen.Decimal

/-- The decimal digits of a natural number. -/
def digits (n : Nat) : List Char := Nat.toDigits 10 n

/-- `n · 10 ^ k` without an exponent: zeros stand where `n` has no digits. -/
def positional (n : Nat) (k : Int) : List Char :=
  let ds := digits n
  if 0 ≤ k then ds ++ List.replicate k.toNat '0'
  else
    let places := (-k).toNat
    if places < ds.length then ds.take (ds.length - places) ++ '.' :: ds.drop (ds.length - places)
    else '0' :: '.' :: List.replicate (places - ds.length) '0' ++ ds

/-- The sign in front of a number. -/
def sign (negative : Bool) : List Char := if negative then ['-'] else []

/-- The whole number `mantissa · 2 ^ exponent`, if it is one. -/
def whole? (mantissa : Nat) (exponent : Int) : Option Nat :=
  let scale := twoTo (-exponent).toNat
  if mantissa % scale = 0 then some (mantissa / scale * twoTo exponent.toNat) else none

/-- The bound below which a whole number keeps one fractional digit. -/
def wholeLimit : Nat := 10000000000000000

/-- A magnitude in **plain notation**. -/
def plainMagnitude (mantissa : Nat) (exponent : Int) : List Char :=
  match whole? mantissa exponent with
  | some n =>
    if n < wholeLimit then digits n ++ ['.', '0']
    else let (n, k) := shortest .up mantissa exponent; positional n k
  | none => let (n, k) := shortest .up mantissa exponent; positional n k

/-- A float in **plain notation**: whole numbers below `10 ^ 16` as `1500.0`, all others by the
fewest digits that read back. -/
def plain (x : Float) : String :=
  match Binary64.ofFloat x with
  | .nan => "NaN"
  | .infinite negative => String.ofList (sign negative ++ "inf".toList)
  | .finite negative mantissa exponent =>
    String.ofList (sign negative ++ plainMagnitude mantissa exponent)

end SiteGen.Decimal

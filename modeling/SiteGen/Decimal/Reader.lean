import SiteGen.Decimal.Binary64

/-!
# Reading decimals

A numeral is an optional sign, digits with at most one point, and an optional exponent; the words
for infinity and for not-a-number are numerals too.  `Decimal.read?` gives the float nearest to it.
-/

namespace SiteGen.Decimal

/-- The number written by a list of ASCII digits. -/
def ofDigits (ds : List Char) : Nat :=
  ds.foldl (fun n c => n * 10 + (c.toNat - 48)) 0

/-- The letter in lower case, for ASCII letters. -/
def lowerWord (cs : List Char) : String := String.ofList (cs.map Char.toLower)

/-- Splits off a leading sign: whether it is a minus, and the rest. -/
def takeSign : List Char → Bool × List Char
  | '-' :: rest => (true, rest)
  | '+' :: rest => (false, rest)
  | rest => (false, rest)

/-- The exponent written after `e`, if the text is nothing else. -/
def readExponent? (text : List Char) : Option Int :=
  let (negative, ds) := takeSign text
  if ds.isEmpty || !ds.all Char.isDigit then none
  else some (if negative then -(ofDigits ds : Int) else ofDigits ds)

/-- The parts of an unsigned numeral: whole digits, fractional digits, exponent. -/
def splitNumeral? (text : List Char) : Option (List Char × List Char × Int) :=
  let whole := text.takeWhile Char.isDigit
  let rest := text.dropWhile Char.isDigit
  let (fraction, rest) := match rest with
    | '.' :: rest => (rest.takeWhile Char.isDigit, rest.dropWhile Char.isDigit)
    | rest => ([], rest)
  if whole.isEmpty && fraction.isEmpty then none
  else match rest with
    | [] => some (whole, fraction, 0)
    | c :: rest =>
      if c == 'e' || c == 'E' then (readExponent? rest).map fun e => (whole, fraction, e)
      else none

/-- The float nearest to the numeral that makes up the whole text, if it is one. -/
def read? (text : List Char) : Option Float :=
  let (negative, body) := takeSign text
  match splitNumeral? body with
  | some (whole, fraction, exponent) =>
    some (Binary64.ofDecimal negative (ofDigits (whole ++ fraction)) (exponent - fraction.length))
  | none =>
    let word := lowerWord body
    if word == "inf" || word == "infinity" then
      some (Binary64.toFloat negative Binary64.infinityBits)
    else if word == "nan" then some (0.0 / 0.0)
    else none

/-- Whether a float is neither infinite nor not-a-number. -/
def isFinite (x : Float) : Bool :=
  match Binary64.ofFloat x with
  | .finite .. => true
  | _ => false

end SiteGen.Decimal

import SiteGen.Decimal.Reader
import SiteGen.Text.HexDigit
import SiteGen.Yaml.Basic

/-!
# Plain scalars

The type of a scalar without quotes is seen from its form.

* `PlainScalar.value?` is the value of a plain scalar. Whole numbers of more than 64 bits and no more
  than 128 are refused; longer ones are read as floats.
* `PlainScalar.isNull`, `bool?`, `integer?` and `float?` read the single types.
-/

namespace SiteGen.Yaml.PlainScalar

/-- Whether the text stands for no value. -/
def isNull (text : String) : Bool := ["null", "Null", "NULL", "~"].contains text

/-- The truth value that the text stands for. -/
def bool? (text : String) : Option Bool :=
  if ["true", "True", "TRUE"].contains text then some true
  else if ["false", "False", "FALSE"].contains text then some false
  else none

/-- The text without a plus sign in front. -/
def dropPlus : List Char → List Char
  | '+' :: rest => rest
  | text => text

/-- Whether a sign comes first. -/
def startsWithSign : List Char → Bool
  | '+' :: _ | '-' :: _ => true
  | _ => false

/-- Whether the text is a sequence of digits with a zero in front of others, which is no number. -/
def isPadded (text : List Char) : Bool :=
  match (if startsWithSign text then text.drop 1 else text) with
  | '0' :: d :: rest => (d :: rest).all Char.isDigit
  | _ => false

/-- The number that digits write in a base of at most 16. -/
def inBase? (base : Nat) (ds : List Char) : Option Nat :=
  if ds.isEmpty then none
  else ds.foldlM (fun n c => (hexValue? c).bind fun d =>
    if d < base then some (n * base + d) else none) 0

/-- The number written after a sign for its base. -/
def based? : List Char → Option Nat
  | '0' :: 'x' :: ds => inBase? 16 ds
  | '0' :: 'o' :: ds => inBase? 8 ds
  | '0' :: 'b' :: ds => inBase? 2 ds
  | _ => none

/-- The bound of numbers of 128 bits. -/
def wideLimit : Nat := 0x100000000000000000000000000000000

/-- The whole number that the text writes without a minus sign. -/
def natural? (text : List Char) : Option Int :=
  let body := dropPlus text
  let bounded (n : Option Nat) : Option Int := (n.filter (· < wideLimit)).map Int.ofNat
  (bounded (based? body)).or
    (if isPadded text then none else bounded (inBase? 10 body))

/-- The whole number that the text writes with a minus sign. -/
def negative? (text : List Char) : Option Int :=
  match text with
  | '-' :: body =>
    let bounded (n : Option Nat) : Option Int :=
      (n.filter (2 * · ≤ wideLimit)).map fun n => -(n : Int)
    (bounded (based? body)).or
      (if isPadded text then none else bounded (inBase? 10 body))
  | _ => none

/-- The **whole number** that the text writes, if it has at most 128 bits. -/
def integer? (text : List Char) : Option Int := (natural? text).or (negative? text)

/-- Whether a whole number has at most 64 bits. -/
def fits (n : Int) : Bool := decide (-0x8000000000000000 ≤ n) && decide (n < 0x10000000000000000)

/-- The **float** that the text writes. -/
def float? (text : List Char) : Option Float :=
  let body := dropPlus text
  if text.head? == some '+' && startsWithSign body then none
  else
    let is (words : List String) (t : List Char) := words.contains (String.ofList t)
    if is [".inf", ".Inf", ".INF"] body then some (Binary64.toFloat false Binary64.infinityBits)
    else if is ["-.inf", "-.Inf", "-.INF"] text then
      some (Binary64.toFloat true Binary64.infinityBits)
    else if is [".nan", ".NaN", ".NAN"] text then some (0.0 / 0.0)
    else (Decimal.read? body).filter Decimal.isFinite

/-- The **value** of a plain scalar. -/
def value? (text : String) : Option Yaml :=
  let chars := text.toList
  if text.isEmpty || isNull text then some .null
  else match bool? text with
    | some b => some (.bool b)
    | none =>
      match integer? chars with
      | some n => if fits n then some (.integer n) else none
      | none =>
        match if isPadded chars then none else float? chars with
        | some x => some (.float x)
        | none => some (.string text)

end SiteGen.Yaml.PlainScalar

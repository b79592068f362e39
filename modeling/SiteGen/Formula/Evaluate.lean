import SiteGen.Decimal.Plain
import SiteGen.Decimal.Reader
import SiteGen.Formula.Grammar
import SiteGen.Text.Blank

/-!
# Evaluation of texts

A text is evaluated in two passes: droop formulas are replaced by their values, then products.  If
one of the passes changed the text and left nothing but a number, the result is that number.

* `Droop.value` and `Product.text` are the meanings of the two shapes.
* `Leaf.evaluate` is the evaluation of a text.
-/

namespace SiteGen

/-- The sign between two terms. -/
inductive Sign where
  /-- The terms are added. -/
  | plus
  /-- The second term is subtracted. -/
  | minus
deriving DecidableEq, Repr

namespace Sign

/-- The sign written as a text. -/
def ofText (text : List Char) : Sign := if text = ['+'] then .plus else .minus

/-- The sum or the difference. -/
def apply (sign : Sign) (x y : Float) : Float :=
  match sign with
  | .plus => x + y
  | .minus => x - y

end Sign

/-- A **droop formula** `100±[c*]p[*(v±d)]`. -/
structure Droop where
  /-- The sign after the 100. -/
  sign : Sign
  /-- The coefficient of the percentage. -/
  coefficient : Option Float
  /-- The percentage. -/
  percent : Float
  /-- The voltage, a sign and the deadband. -/
  voltage : Option (Float × Sign × Float)

namespace Droop

/-- The value of the formula: the percentage of the voltage, or of nothing. -/
def value (d : Droop) : Float :=
  let percent := match d.coefficient with
    | some c => c * d.percent
    | none => d.percent
  let percentage := d.sign.apply 100.0 percent
  match d.voltage with
  | some (voltage, sign, deadband) => (percentage / 100.0) * sign.apply voltage deadband
  | none => percentage

/-- The voltage term of a match, if there is one; `none` if a term is not a numeral. -/
def voltage? (m : Regex.Match) : Option (Option (Float × Sign × Float)) :=
  match m.group? 4, m.group? 5, m.group? 6 with
  | some voltage, some sign, some deadband => do
    let voltage ← Decimal.read? voltage
    let deadband ← Decimal.read? deadband
    return some (voltage, Sign.ofText sign, deadband)
  | _, _, _ => some none

/-- The formula of a match; `none` if a term is not a numeral. -/
def ofMatch? (m : Regex.Match) : Option Droop := do
  let coefficient ← match m.group? 2 with
    | some c => (Decimal.read? c).map some
    | none => some none
  let percent ← Decimal.read? (← m.group? 3)
  let voltage ← voltage? m
  return { sign := Sign.ofText (← m.group? 1), coefficient, percent, voltage }

/-- What is written for a match: its value, or the match itself if it has none. -/
def rewrite (m : Regex.Match) : List Char :=
  match ofMatch? m with
  | some d => (Decimal.plain d.value).toList
  | none => m.text

end Droop

/-- A **product** of a coefficient and a value, or a value alone. -/
structure Product where
  /-- The coefficient. -/
  coefficient : Option Float
  /-- The value as it is written. -/
  value : List Char

namespace Product

/-- What is written for the product: its value, or the value as it stands if there is no coefficient
or the value is not a numeral. -/
def text (p : Product) : List Char :=
  match p.coefficient with
  | some c =>
    match Decimal.read? p.value with
    | some v => (Decimal.plain (c * v)).toList
    | none => p.value
  | none => p.value

/-- The product of a match; `none` if the coefficient is not a numeral. -/
def ofMatch? (m : Regex.Match) : Option Product := do
  let coefficient ← match m.group? 1 with
    | some c => (Decimal.read? c).map some
    | none => some none
  return { coefficient, value := ← m.group? 2 }

/-- What is written for a match. -/
def rewrite (m : Regex.Match) : List Char :=
  match ofMatch? m with
  | some p => p.text
  | none => m.text

end Product

/-- The outcome of evaluating a text. -/
inductive Leaf where
  /-- A text. -/
  | text (chars : List Char)
  /-- A number. -/
  | number (value : Float)

namespace Leaf

/-- The number that a text denotes, blanks around it left out, if it is a finite one. -/
def number? (text : List Char) : Option Float :=
  (Decimal.read? (trimBlank text)).filter Decimal.isFinite

/-- The text with every droop formula replaced by its value. -/
def droopPass (text : List Char) : List Char := Formula.droop.replaceAll Droop.rewrite text

/-- The text with every product replaced by its value. -/
def productPass (text : List Char) : List Char := Formula.product.replaceAll Product.rewrite text

/-- The text after both passes. -/
def rewrite (text : List Char) : List Char := productPass (droopPass text)

/-- Whether the text begins with an unreplaced wildcard. -/
def hasWildcard (text : List Char) : Bool := Formula.wildcard.matchesStart text

/-- The number left by a pass that turned `before` into `after`, if it changed the text. -/
def promoted? (before after : List Char) : Option Float :=
  if after = before then none else number? after

/-- The **evaluation** of a text. -/
def evaluate (text : List Char) : Leaf :=
  let drooped := droopPass text
  match promoted? text drooped with
  | some x => .number x
  | none =>
    let rewritten := productPass drooped
    match promoted? drooped rewritten with
    | some x => .number x
    | none => .text rewritten

end Leaf

end SiteGen

import SiteGen.Regex.Match
import SiteGen.Text.DecimalDigit
import SiteGen.Text.WordChar

/-!
# Formulas in texts

The shapes of arithmetic that a text may hold, as regular expressions.

* `Formula.droop` is the droop formula `100±[c*]p[*(v±d)]`; its groups are the sign, the
  coefficient, the percentage, the voltage, the sign of the deadband and the deadband.
* `Formula.product` is a value with an optional coefficient, `[c*]v`.
* `Formula.wildcard` is a placeholder that was never replaced.
-/

namespace SiteGen.Formula

open Regex

/-- One decimal digit. -/
def digit : CharSet := .decimalDigit

/-- One or more decimal digits. -/
def digits : Regex := plus (.set digit) true

/-- Any number of decimal digits. -/
def optDigits : Regex := star (.set digit) true

/-- A plus or a minus. -/
def sign : Regex := .set (.ofList ['+', '-'])

/-- Any character but a line feed. -/
def notLineFeed : CharSet := CharSet.compl (.single '\n')

/-- The coefficient of a droop formula: digits with **any character** before the last of them. -/
def droopCoefficient : Regex := sequence [optDigits, .set notLineFeed, digits]

/-- The **droop formula**. -/
def droop : Regex :=
  sequence
    [text ['1', '0', '0'], .group 1 sign,
     opt (sequence [.group 2 droopCoefficient, char '*']) true,
     .group 3 digits,
     opt (sequence [text ['*', '('], .group 4 digits, .group 5 sign, .group 6 digits, char ')']) true]

/-- The coefficient of a product: an optional minus and a decimal. -/
def productCoefficient : Regex :=
  sequence [opt (char '-') true, opt (sequence [optDigits, char '.']) true, digits]

/-- A value, with digits on both sides of a point if there is one. -/
def value : Regex := sequence [digits, opt (sequence [char '.', digits]) true]

/-- A **product** of a coefficient and a value, or a value alone. -/
def product : Regex :=
  .seq (opt (sequence [.group 1 productCoefficient, char '*']) true) (.group 2 value)

/-- An **unreplaced wildcard**, a word in double braces at the beginning of the text. -/
def wildcard : Regex :=
  sequence [.anchor .textStart, text ['\x7b', '\x7b'], plus (.set .wordChar) true,
    text ['\x7d', '\x7d']]

end SiteGen.Formula

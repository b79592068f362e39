import SiteGen.Decimal.Plain
import SiteGen.Json.Basic

/-!
# Writing JSON

A value is written either on one line or with one member or item a line.

* `JsonNumber.text` writes a number; floats take the fewest digits that read back.
* `Json.compact` writes a value without blanks.
* `Json.fixture` writes a value as test fixtures are kept: indented by four blanks, in ASCII.
-/

namespace SiteGen

namespace Decimal

/-- How far right of the first digit the point may stand in a number without an exponent. -/
def jsonHighest : Int := 16

/-- How far left of the first digit the point may stand in a number without an exponent. -/
def jsonLowest : Int := -5

/-- The decimal `n · 10 ^ k` with a point and, if it is very large or small, an exponent. -/
def scientific (n : Nat) (k : Int) : List Char :=
  let ds := digits n
  let exponent := k + ds.length - 1
  if jsonLowest ≤ exponent ∧ exponent < jsonHighest then
    positional n k ++ if 0 ≤ k then ['.', '0'] else []
  else
    let mantissa := match ds with
      | [] => []
      | [d] => [d]
      | d :: more => d :: '.' :: more
    mantissa ++ 'e' :: (if exponent < 0 then '-' else '+') :: digits exponent.natAbs

end Decimal

/-- The text of a float in JSON; only finite floats have one. -/
def JsonNumber.floatText (x : Float) : List Char :=
  match Binary64.ofFloat x with
  | .finite negative mantissa exponent =>
    let (n, k) := Decimal.shortest .even mantissa exponent
    Decimal.sign negative ++ Decimal.scientific n k
  | _ => "null".toList

/-- The text of a number. -/
def JsonNumber.text : JsonNumber → List Char
  | .integer n => Decimal.sign (n < 0) ++ Decimal.digits n.natAbs
  | .float x => floatText x

namespace Json

/-- How a value is laid out. -/
structure Layout where
  /-- The blanks for each level, or everything on one line. -/
  indent : Option Nat
  /-- Whether characters outside ASCII are written as escapes. -/
  asciiOnly : Bool
deriving DecidableEq, Repr

/-- A hexadecimal digit. -/
def hexDigit (n : Nat) : Char := Nat.digitChar n

/-- A unit of sixteen bits as an escape. -/
def unitEscape (unit : Nat) : List Char :=
  ['\\', 'u', hexDigit (unit / 4096 % 16), hexDigit (unit / 256 % 16), hexDigit (unit / 16 % 16),
    hexDigit (unit % 16)]

/-- A character as one escape, or as two for the two halves of a pair of surrogates. -/
def charEscape (c : Char) : List Char :=
  if c.toNat < 0x10000 then unitEscape c.toNat
  else
    let n := c.toNat - 0x10000
    unitEscape (0xD800 + n / 1024) ++ unitEscape (0xDC00 + n % 1024)

/-- A character inside a text. -/
def writeChar (asciiOnly : Bool) (c : Char) : List Char :=
  if c = '"' then ['\\', '"']
  else if c = '\\' then ['\\', '\\']
  else if c = '\x08' then ['\\', 'b']
  else if c = '\x0c' then ['\\', 'f']
  else if c = '\n' then ['\\', 'n']
  else if c = '\r' then ['\\', 'r']
  else if c = '\t' then ['\\', 't']
  else if c.toNat < 0x20 then unitEscape c.toNat
  else if asciiOnly && 0x80 ≤ c.toNat then charEscape c
  else [c]

/-- A text in quotes. -/
def writeString (asciiOnly : Bool) (s : String) : List Char :=
  '"' :: (s.toList.flatMap (writeChar asciiOnly) ++ ['"'])

/-- The break before an item at the given level. -/
def Layout.lineBreak (layout : Layout) (level : Nat) : List Char :=
  match layout.indent with
  | none => []
  | some width => '\n' :: List.replicate (width * level) ' '

/-- What stands between a key and its value. -/
def Layout.colon (layout : Layout) : List Char :=
  match layout.indent with
  | none => [':']
  | some _ => [':', ' ']

mutual

/-- The text of a value at the given level. -/
def write (layout : Layout) (level : Nat) : Json → List Char
  | .null => "null".toList
  | .bool b => if b then "true".toList else "false".toList
  | .number n => n.text
  | .string s => writeString layout.asciiOnly s
  | .array [] => ['[', ']']
  | .array (item :: items) =>
    '[' :: (layout.lineBreak (level + 1) ++ (write layout (level + 1) item
      ++ (writeItems layout (level + 1) items ++ (layout.lineBreak level ++ [']']))))
  | .object [] => ['\x7b', '\x7d']
  | .object ((key, value) :: members) =>
    '\x7b' :: (layout.lineBreak (level + 1) ++ (writeString layout.asciiOnly key
      ++ (layout.colon ++ (write layout (level + 1) value
      ++ (writeMembers layout (level + 1) members ++ (layout.lineBreak level ++ ['\x7d']))))))

/-- The items after the first. -/
def writeItems (layout : Layout) (level : Nat) : List Json → List Char
  | [] => []
  | item :: items =>
    ',' :: (layout.lineBreak level ++ (write layout level item ++ writeItems layout level items))

/-- The members after the first. -/
def writeMembers (layout : Layout) (level : Nat) : List (String × Json) → List Char
  | [] => []
  | (key, value) :: members =>
    ',' :: (layout.lineBreak level ++ (writeString layout.asciiOnly key
      ++ (layout.colon ++ (write layout level value ++ writeMembers layout level members))))

end

/-- The value on one line **without blanks**. -/
def compact (v : Json) : String := String.ofList (write ⟨none, false⟩ 0 v)

/-- The value as test fixtures are kept: **indented by four blanks, in ASCII**. -/
def fixture (v : Json) : String := String.ofList (write ⟨some 4, true⟩ 0 v)

end Json

end SiteGen

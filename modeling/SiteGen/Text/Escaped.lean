import SiteGen.Text.Category
import SiteGen.Text.Property

/-!
# Texts in messages

A text is shown in double quotes, with escapes for all that would not be seen.

* `escapeChar` is how one character is shown, `escaped` how a text is.
-/

namespace SiteGen

/-- Whether a character other than the space leaves no mark of its own when it is shown. -/
def CharSet.unprintable : CharSet :=
  [Category.control, Category.format, Category.unassigned, Category.privateUse,
    Category.lineSeparator, Category.paragraphSeparator, Category.spaceSeparator].foldl
    CharSet.union ⟨[]⟩

/-- Whether a character is shown by its number. -/
def isHidden (c : Char) : Bool :=
  c != ' ' && (CharSet.unprintable.contains c || Property.graphemeExtend.contains c)

/-- A character as it is shown in a message. -/
def escapeChar (c : Char) : List Char :=
  match c with
  | '\t' => ['\\', 't']
  | '\r' => ['\\', 'r']
  | '\n' => ['\\', 'n']
  | '\x00' => ['\\', '0']
  | '"' => ['\\', '"']
  | '\\' => ['\\', '\\']
  | c =>
    if isHidden c then ['\\', 'u', '\x7b'] ++ Nat.toDigits 16 c.toNat ++ ['\x7d'] else [c]

/-- A text as it is **shown in a message**. -/
def escaped (text : String) : String :=
  String.ofList ('"' :: text.toList.flatMap escapeChar ++ ['"'])

end SiteGen

import SiteGen.Text.CharSet

/-!
# Blank characters

The characters with the White_Space property, and trimming by them.
-/

namespace SiteGen

/-- The **blank characters**: spaces, tabs, line ends and the wider spaces of all scripts. -/
def CharSet.blank : CharSet :=
  ⟨[(9, 13), (32, 32), (133, 133), (160, 160), (5760, 5760), (8192, 8202), (8232, 8233),
    (8239, 8239), (8287, 8287), (12288, 12288)]⟩

/-- Whether the character is blank. -/
def isBlank (c : Char) : Bool := CharSet.blank.contains c

/-- The text without the blank characters at its two ends. -/
def trimBlank (text : List Char) : List Char :=
  ((text.dropWhile isBlank).reverse.dropWhile isBlank).reverse

end SiteGen

import SiteGen.Yaml.Cursor

/-!
# Blanks inside a scalar

Spaces inside a line belong to a scalar that runs over several lines; the blanks around a line break
do not, and the break itself folds.

* `Gap.text` is what the blanks between two words stand for: one break is a space, more breaks are
  one fewer.
-/

namespace SiteGen.Yaml

/-- The **blanks** read since the last word of a scalar. -/
inductive Gap where
  /-- Spaces and tabs on one line. -/
  | inline (spaces : List Char)
  /-- At least one line break: the first, and those after it. -/
  | broken (first more : List Char)
deriving Inhabited

namespace Gap

/-- No blanks. -/
def empty : Gap := .inline []

/-- With one more space or tab. -/
def addSpace (c : Char) : Gap → Gap
  | .inline spaces => .inline (spaces ++ [c])
  | .broken first more => .broken first more

/-- With one more line break. -/
def addBreak (text : List Char) : Gap → Gap
  | .inline _ => .broken text []
  | .broken first more => .broken first (more ++ text)

/-- Whether there is a line break. -/
def isBroken : Gap → Bool
  | .inline _ => false
  | .broken _ _ => true

/-- Whether there is nothing at all. -/
def isEmpty : Gap → Bool
  | .inline spaces => spaces.isEmpty
  | .broken _ _ => false

/-- What the blanks stand for. -/
def text : Gap → List Char
  | .inline spaces => spaces
  | .broken first more =>
    if first == ['\n'] then (if more.isEmpty then [' '] else more) else first ++ more

end Gap

end SiteGen.Yaml

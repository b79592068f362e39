import SiteGen.Scalar

/-!
# Filename patterns

A pattern makes one filename for each of its values: the value stands in place of every placeholder.

* `FilenamePattern.values` are the values, `filenameFor` the filename for one of them.
* `replaceAll` replaces all occurrences of a text in another one, from left to right.
-/

namespace SiteGen

/-- The text after a given beginning, if it begins so. -/
def dropStart? : List Char → List Char → Option (List Char)
  | [], text => some text
  | c :: start, d :: text => if c = d then dropStart? start text else none
  | _ :: _, [] => none

/-- Whether a text occurs in another one. -/
def occursIn (word : List Char) : List Char → Bool
  | [] => word.isEmpty
  | c :: text => (dropStart? word (c :: text)).isSome || occursIn word text

/-- A text with **all occurrences** of a word replaced, from left to right; `skip` characters of the
last occurrence are still to be passed over. -/
def replaceFrom (word new : List Char) : Nat → List Char → List Char
  | _, [] => []
  | skip + 1, _ :: text => replaceFrom word new skip text
  | 0, c :: text =>
    if (dropStart? word (c :: text)).isSome then new ++ replaceFrom word new (word.length - 1) text
    else c :: replaceFrom word new 0 text

/-- What stands for the value in a filename template. -/
def placeholder : String := "\x7b\x7btarget\x7d\x7d"

/-- How filenames are **made from values**. -/
inductive FilenamePattern where
  /-- One file for each whole number from `low` to `high`. -/
  | sequential (template : String) (low high : Int)
  /-- One file for each of some values. -/
  | list (template : String) (values : List Scalar)

namespace FilenamePattern

/-- The filename with placeholders. -/
def template : FilenamePattern → String
  | .sequential template _ _ => template
  | .list template _ => template

/-- The **values**, in order. -/
def values : FilenamePattern → List Scalar
  | .sequential _ low high =>
    (List.range (high - low + 1).toNat).map fun i : Nat => .integer (low + i)
  | .list _ values => values

/-- The **filename** for a value. -/
def filenameFor (p : FilenamePattern) (value : Scalar) : String :=
  String.ofList (replaceFrom placeholder.toList value.written.toList 0 p.template.toList)

/-- Whether the template has a placeholder. -/
def hasPlaceholder (p : FilenamePattern) : Bool := occursIn placeholder.toList p.template.toList

end FilenamePattern

end SiteGen

import SiteGen.Regex.Meaning
import SiteGen.Regex.Residual

/-!
# Targets

What a replacement looks for: a regular expression, or a text taken as it stands if it is not one.

* `Target.source` is the regular expression in use, as it is written.
* `Target.replaceAll` puts a text in place of every match.
-/

namespace SiteGen

/-- A **target** of replacement. -/
structure Target where
  /-- The target as it is given. -/
  text : String
deriving DecidableEq, Repr

namespace Target

/-- The regular expression of the target, if it is one. -/
def regex? (t : Target) : Option Regex := Regex.read? t.text.toList

/-- What is looked for: the regular expression, or else **the text itself**. -/
def pattern (t : Target) : Regex := t.regex?.getD (Regex.text t.text.toList)

/-- The regular expression in use, as it is written. -/
def source (t : Target) : String :=
  if t.regex?.isSome then t.text else String.ofList (Regex.quote t.text.toList)

/-- The byte offsets at which the matches in a text begin and end. -/
def spans (t : Target) (text : String) : List (Nat × Nat) := Regex.Finder.spans t.pattern.checkedEnd? text.toList

/-- The text with `value`, taken literally, in place of every match. -/
def replaceAll (t : Target) (value text : String) : String :=
  String.ofList (Regex.Finder.replaceAll t.pattern.checkedEnd? (fun _ => value.toList) text.toList)

end Target

end SiteGen

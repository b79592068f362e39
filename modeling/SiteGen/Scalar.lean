import SiteGen.Decimal.Plain

/-!
# Scalars

The single values of an override file: what a filename is completed with, and what a target is
replaced by.

* `Scalar.written` is how a scalar is written in filenames and in files.
-/

namespace SiteGen

/-- A **scalar** of an override file. -/
inductive Scalar where
  /-- A whole number of 64 bits with a sign. -/
  | integer (n : Int)
  /-- A float. -/
  | float (x : Float)
  /-- A truth value. -/
  | boolean (b : Bool)
  /-- A text. -/
  | text (s : String)

namespace Scalar

/-- How a scalar is **written**: numbers in plain decimals. -/
def written : Scalar → String
  | .integer n => toString n
  | .float x => Decimal.plain x
  | .boolean b => if b then "true" else "false"
  | .text s => s

end Scalar

end SiteGen

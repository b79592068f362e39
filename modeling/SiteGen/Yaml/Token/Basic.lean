/-!
# YAML tokens

The tokens that a YAML text is made of. Indentation is made explicit: a block collection has a start
and an end, and a key of a mapping is marked in front.
-/

namespace SiteGen.Yaml

/-- A **token** of a YAML text. -/
inductive Token where
  /-- The version that the text is written for. -/
  | version (major minor : Nat)
  /-- What the handle of a tag stands for. -/
  | handle (name : String) (expansion : List UInt8)
  /-- The start of a document. -/
  | documentStart
  /-- The end of a document. -/
  | documentEnd
  /-- The end of the text. -/
  | streamEnd
  /-- The start of a list of indented entries. -/
  | blockSequence
  /-- The start of a list of indented keys and values. -/
  | blockMapping
  /-- The end of an indented collection. -/
  | blockEnd
  /-- The bracket `[`. -/
  | openSequence
  /-- The bracket `]`. -/
  | closeSequence
  /-- The brace that opens a mapping. -/
  | openMapping
  /-- The brace that closes a mapping. -/
  | closeMapping
  /-- The dash in front of an entry. -/
  | dash
  /-- The comma between entries. -/
  | comma
  /-- A key follows. -/
  | key
  /-- The value of a key follows. -/
  | value
  /-- The value of the named anchor, once more. -/
  | alias (name : String)
  /-- A name for the value that follows. -/
  | anchor (name : String)
  /-- A tag for the value that follows. -/
  | tag (handle : String) (suffix : List UInt8)
  /-- A scalar, plain or quoted. -/
  | scalar (text : String) (plain : Bool)
deriving DecidableEq, Repr, Inhabited

end SiteGen.Yaml

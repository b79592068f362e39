import SiteGen.Formula.Evaluate
import SiteGen.Json.Basic

/-!
# Evaluation of documents

Every text in a JSON document is evaluated where it stands; keys and all other values stay.

* `Json.evaluate` is the evaluated document.
* `Json.wildcards` lists the texts that begin with an unreplaced wildcard, in order.
-/

namespace SiteGen

/-- The outcome of evaluating a text, as a JSON value. -/
def Leaf.toJson : Leaf → Json
  | .text chars => .string (String.ofList chars)
  | .number x => .number (.float x)

/-- The evaluation of a text, as a JSON value. -/
def evaluateText (text : String) : Json := (Leaf.evaluate text.toList).toJson

/-- The text, if it begins with an unreplaced wildcard. -/
def wildcardIn (text : String) : List String :=
  if Leaf.hasWildcard text.toList then [text] else []

namespace Json

mutual

/-- The document with **every text evaluated**. -/
def evaluate : Json → Json
  | .object members => .object (evaluateMembers members)
  | .array items => .array (evaluateItems items)
  | .string text => evaluateText text
  | .null => .null
  | .bool b => .bool b
  | .number n => .number n

/-- The items, evaluated. -/
def evaluateItems : List Json → List Json
  | [] => []
  | item :: items => evaluate item :: evaluateItems items

/-- The members, their values evaluated. -/
def evaluateMembers : List (String × Json) → List (String × Json)
  | [] => []
  | (key, value) :: members => (key, evaluate value) :: evaluateMembers members

end

mutual

/-- The texts in the document that begin with an **unreplaced wildcard**, in order. -/
def wildcards : Json → List String
  | .object members => memberWildcards members
  | .array items => itemWildcards items
  | .string text => wildcardIn text
  | .null | .bool _ | .number _ => []

/-- The texts in the items that begin with an unreplaced wildcard. -/
def itemWildcards : List Json → List String
  | [] => []
  | item :: items => wildcards item ++ itemWildcards items

/-- The texts in the values of the members that begin with an unreplaced wildcard. -/
def memberWildcards : List (String × Json) → List String
  | [] => []
  | (_, value) :: members => wildcards value ++ memberWildcards members

end

end Json

end SiteGen

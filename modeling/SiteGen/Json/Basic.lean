/-!
# JSON values

A JSON document as a value: objects keep their keys in the order in which they were first given.

* `Json.insertMember` gives a key its value, at its old position if it has one.
-/

namespace SiteGen

/-- A JSON number: whole numbers of 64 bits are kept apart from floats. -/
inductive JsonNumber where
  /-- A whole number. -/
  | integer (n : Int)
  /-- A float. -/
  | float (x : Float)

/-- A **JSON value**. -/
inductive Json where
  /-- The value `null`. -/
  | null
  /-- A truth value. -/
  | bool (b : Bool)
  /-- A number. -/
  | number (n : JsonNumber)
  /-- A text. -/
  | string (s : String)
  /-- A list of values. -/
  | array (items : List Json)
  /-- Values under keys. -/
  | object (members : List (String × Json))

namespace Json

instance : Inhabited Json := ⟨.null⟩

/-- The members with the key set to the value: **at its old position**, or at the end if it is
new. -/
def insertMember (key : String) (value : Json) : List (String × Json) → List (String × Json)
  | [] => [(key, value)]
  | (k, v) :: rest =>
    if k = key then (key, value) :: rest else (k, v) :: insertMember key value rest

end Json

end SiteGen

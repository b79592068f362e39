import SiteGen.Decimal.Binary64

/-!
# YAML values

A YAML document as a value: scalars by their type, sequences, and mappings in the order of their
entries.

* `Yaml.same` is the equality that two keys of one mapping may not have: the order of the entries of
  a mapping does not count, a float that is not a number equals itself, and both zeros are one.
* `Yaml.get?` looks up a text key.
-/

namespace SiteGen

/-- A **YAML value**. -/
inductive Yaml where
  /-- No value. -/
  | null
  /-- A truth value. -/
  | bool (b : Bool)
  /-- A whole number. -/
  | integer (n : Int)
  /-- A float. -/
  | float (x : Float)
  /-- A text. -/
  | string (s : String)
  /-- A list of values. -/
  | sequence (items : List Yaml)
  /-- Values under keys. -/
  | mapping (entries : List (Yaml × Yaml))
  /-- A value under an application tag. -/
  | tagged (tag : String) (contents : Yaml)

namespace Yaml

instance : Inhabited Yaml := ⟨.null⟩

/-- Whether two floats are one key: equal, or both not a number. -/
def sameFloat (x y : Float) : Bool := x == y || (x.isNaN && y.isNaN)

mutual

/-- Whether two values are **one key**. -/
def same : Yaml → Yaml → Bool
  | .null, .null => true
  | .bool a, .bool b => a == b
  | .integer m, .integer n => m == n
  | .float x, .float y => sameFloat x y
  | .string s, .string t => s == t
  | .sequence a, .sequence b => sameItems a b
  | .mapping a, .mapping b => a.length == b.length && sameEntries a b
  | .tagged s a, .tagged t b => s == t && same a b
  | _, _ => false

/-- Whether two lists of values are the same, item by item. -/
def sameItems : List Yaml → List Yaml → Bool
  | [], [] => true
  | a :: as, b :: bs => same a b && sameItems as bs
  | _, _ => false

/-- Whether every entry of the first mapping is an entry of the second. -/
def sameEntries : List (Yaml × Yaml) → List (Yaml × Yaml) → Bool
  | [], _ => true
  | (key, value) :: rest, other =>
    other.any (fun (k, v) => same key k && same value v) && sameEntries rest other

end

/-- The value under a text key. -/
def get? (entries : List (Yaml × Yaml)) (key : String) : Option Yaml :=
  (entries.find? fun (k, _) => match k with
    | .string s => s == key
    | _ => false).map (·.2)

/-- The value without the tags around it. -/
def untagged : Yaml → Yaml
  | .tagged _ contents => untagged contents
  | value => value

end Yaml

end SiteGen

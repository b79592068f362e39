import SiteGen.Decimal.Reader
import SiteGen.Scalar
import SiteGen.Text.Escaped
import SiteGen.Yaml.Basic

/-!
# Taking YAML values apart

What the parts of an override file may look like, and what is said of those that do not.

* `DecodeError.message` is the wording of the errors.
* `Yaml.asText`, `asInteger`, `asScalar`, `asItems`, `asOptional` and `asFields` take a value for
  what it should be.
* `Yaml.readFields` reads the fields of a record one after the other, in the order in which they are
  given; fields of other names are passed over.
-/

namespace SiteGen

/-- Why a YAML value is **not what it should be**. -/
inductive DecodeError where
  /-- The value is of another kind than expected. -/
  | wrongKind (found : Yaml) (expected : String)
  /-- A whole number is out of range. -/
  | outOfRange (n : Int) (expected : String)
  /-- A field is missing. -/
  | missingField (name : String)
  /-- A field is given twice. -/
  | duplicateField (name : String)
  /-- A value stands under a tag where none may. -/
  | unexpectedTag
  /-- A value is no scalar. -/
  | notScalar

namespace Yaml

/-- A float in a message: always with a point. -/
def describeFloat (x : Float) : String :=
  let text := Decimal.plain x
  if Decimal.isFinite x && !text.toList.contains '.' then text ++ ".0" else text

/-- What a value is, in a message. -/
def describe : Yaml → String
  | .null => "unit value"
  | .bool b => "boolean \x60" ++ (if b then "true" else "false") ++ "\x60"
  | .integer n => "integer \x60" ++ toString n ++ "\x60"
  | .float x => "floating point \x60" ++ describeFloat x ++ "\x60"
  | .string s => "string " ++ escaped s
  | .sequence _ => "sequence"
  | .mapping _ => "map"
  | .tagged _ _ => "enum"

end Yaml

/-- The **wording** of an error. -/
def DecodeError.message : DecodeError → String
  | .wrongKind found expected => "invalid type: " ++ found.describe ++ ", expected " ++ expected
  | .outOfRange n expected =>
    "invalid value: " ++ (Yaml.integer n).describe ++ ", expected " ++ expected
  | .missingField name => "missing field \x60" ++ name ++ "\x60"
  | .duplicateField name => "duplicate field \x60" ++ name ++ "\x60"
  | .unexpectedTag => "untagged and internally tagged enums do not support enum input"
  | .notScalar => "data did not match any variant of untagged enum ScalarValue"

namespace Yaml

/-- A value that should be a text. -/
def asText (v : Yaml) : Except DecodeError String :=
  match v.untagged with
  | .string s => .ok s
  | other => .error (.wrongKind other "a string")

/-- What a whole number of 64 bits with a sign is called. -/
def integerName : String := "i64"

/-- Whether a whole number has 64 bits with a sign. -/
def isInteger (n : Int) : Bool := decide (-0x8000000000000000 ≤ n) && decide (n < 0x8000000000000000)

/-- A value that should be a whole number of 64 bits with a sign. -/
def asInteger (v : Yaml) : Except DecodeError Int :=
  match v.untagged with
  | .integer n => if isInteger n then .ok n else .error (.outOfRange n integerName)
  | other => .error (.wrongKind other integerName)

mutual

/-- Whether a tag stands anywhere in a value. -/
def hasTag : Yaml → Bool
  | .tagged _ _ => true
  | .sequence items => itemsHaveTag items
  | .mapping entries => entriesHaveTag entries
  | _ => false

/-- Whether a tag stands anywhere in the items. -/
def itemsHaveTag : List Yaml → Bool
  | [] => false
  | item :: items => hasTag item || itemsHaveTag items

/-- Whether a tag stands anywhere in the entries. -/
def entriesHaveTag : List (Yaml × Yaml) → Bool
  | [] => false
  | (key, value) :: entries => hasTag key || hasTag value || entriesHaveTag entries

end

/-- The nearest float to a whole number. -/
def floatOfInteger (n : Int) : Float := Binary64.ofDecimal (decide (n < 0)) n.natAbs 0

/-- A value that should be a scalar. A whole number that has more than 64 bits with a sign is taken
as a float. -/
def asScalar (v : Yaml) : Except DecodeError Scalar :=
  if v.hasTag then .error .unexpectedTag
  else match v with
    | .integer n => .ok (if isInteger n then .integer n else .float (floatOfInteger n))
    | .float x => .ok (.float x)
    | .bool b => .ok (.boolean b)
    | .string s => .ok (.text s)
    | _ => .error .notScalar

/-- A value that should be a list; no value is the empty list. -/
def asItems (v : Yaml) : Except DecodeError (List Yaml) :=
  match v.untagged with
  | .sequence items => .ok items
  | .null => .ok []
  | other => .error (.wrongKind other "a sequence")

/-- A value that should be a list of parts that `decode` reads. -/
def asList {α : Type} (decode : Yaml → Except DecodeError α) (v : Yaml) :
    Except DecodeError (List α) := do
  let items ← v.asItems
  items.mapM decode

/-- A value that may be missing. -/
def asOptional {α : Type} (decode : Yaml → Except DecodeError α) (v : Yaml) :
    Except DecodeError (Option α) :=
  match v with
  | .null => .ok none
  | v => (decode v).map some

/-- A value that should be a mapping, called `expected` in messages; no value is the empty one. -/
def asFields (expected : String) (v : Yaml) : Except DecodeError (List (Yaml × Yaml)) :=
  match v.untagged with
  | .mapping entries => .ok entries
  | .null => .ok []
  | other => .error (.wrongKind other expected)

/-- The name of a field. -/
def asFieldName (v : Yaml) : Except DecodeError String :=
  match v.untagged with
  | .string s => .ok s
  | other => .error (.wrongKind other "field identifier")

/-- Reads the fields of a record, each with the record that has been read so far. -/
def readFields {α : Type} (read : α → String → Yaml → Except DecodeError α) :
    α → List (Yaml × Yaml) → Except DecodeError α
  | record, [] => .ok record
  | record, (key, v) :: rest => do
    let name ← asFieldName key
    let record ← read record name v
    readFields read record rest

/-- Reads a field that may be given once. -/
def readOnce {α : Type} (name : String) (old : Option α) (decode : Yaml → Except DecodeError α)
    (v : Yaml) : Except DecodeError (Option α) :=
  match old with
  | some _ => .error (.duplicateField name)
  | none => (decode v).map some

/-- A field that must be there. -/
def require {α : Type} (name : String) : Option α → Except DecodeError α
  | some a => .ok a
  | none => .error (.missingField name)

end Yaml

end SiteGen

import SiteGen.Template.Basic
import SiteGen.Text.Blank

/-!
# Override files

What is special about a site: the variant and the templates of each kind of device, and the
replacements in all of its files.

* `Override.ofText` reads an override file; an empty file says nothing special.
* `Override.variant`, `templates` and `replacements` are its parts, each read when it is asked for.
-/

namespace SiteGen

/-- The **override file** of a site, by its settings. -/
structure Override where
  /-- The settings. -/
  settings : List (Yaml × Yaml)

namespace Override

/-- No settings. -/
def empty : Override := ⟨[]⟩

/-- The settings in a document. -/
def ofYaml : Yaml → Except DecodeError Override
  | .string "" => .ok empty
  | v => (v.asFields "a YAML mapping").map Override.mk

/-- **Reads** an override file. -/
def ofText (text : String) : Except Error Override :=
  if text.toList.all isBlank then .ok empty
  else match Yaml.parse text with
    | .error e => .error (.ofRead e)
    | .ok v => (ofYaml v).mapError Error.ofDecode

/-- The value of a setting. -/
def get? (o : Override) (key : String) : Option Yaml := Yaml.get? o.settings key

/-- The **variant** of a kind of device, if one is chosen. -/
def variant (o : Override) (kind : String) : Except Error (Option String) :=
  let key := kind ++ "_variant"
  match o.get? key with
  | none => .ok none
  | some v =>
    match v.asScalar with
    | .ok s => .ok (some s.written)
    | .error e => .error (.invalidSetting key e)

/-- The **templates** of a kind of device, if there is a list of them. -/
def templates (o : Override) (kind : String) : Except Error (Option (List Template)) :=
  match o.get? (kind ++ "_templates") with
  | none => .ok none
  | some v =>
    match v.asItems with
    | .error e => .error (.ofDecode e)
    | .ok items => (items.mapM Template.ofYaml).map some

/-- Reads replacements, of which the first is number `index`. -/
def readReplacements (index : Nat) : List Yaml → Except Error (List FilesetReplacement)
  | [] => .ok []
  | item :: items =>
    match FilesetReplacement.ofYaml item with
    | .error e => .error (.invalidReplacement index e)
    | .ok r => (readReplacements (index + 1) items).map (r :: ·)

/-- The **replacements** in the files of the site. -/
def replacements (o : Override) : Except Error (List FilesetReplacement) :=
  match o.get? "replacements" with
  | none => .ok []
  | some v =>
    match v.asItems with
    | .error e => .error (.ofDecode e)
    | .ok items => readReplacements 0 items

end Override

end SiteGen

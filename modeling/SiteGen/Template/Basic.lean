import SiteGen.Error
import SiteGen.Replacement.Basic
import SiteGen.Template.Pattern

/-!
# Template entries

What an override file says about a template: the file, the pattern of the filenames, and what is
replaced in the files.

* `Template.ofYaml` reads an entry. All fields of the wrong form are noticed first, then missing
  ones, then a range that is too long, and last a filename without placeholder.
-/

namespace SiteGen

/-- A **template entry**. -/
structure Template where
  /-- The path of the template file. -/
  source : Path
  /-- The pattern of the filenames. -/
  pattern : FilenamePattern
  /-- What is replaced in the files, one value for each. -/
  replacements : List PositionalReplacement

namespace Template

/-- How many files a range of numbers may give. -/
def rangeLimit : Nat := 10000

/-! ## Fields -/

/-- The fields of a filename pattern read so far. -/
structure PatternFields where
  /-- The kind of the pattern. -/
  kind : Option (Option String) := none
  /-- The filename with placeholders. -/
  template : Option (Option String) := none
  /-- The first number. -/
  low : Option (Option Int) := none
  /-- The last number. -/
  high : Option (Option Int) := none
  /-- The values. -/
  values : Option (Option (List Scalar)) := none

/-- Reads a field of a filename pattern. -/
def PatternFields.read (f : PatternFields) (name : String) (v : Yaml) :
    Except DecodeError PatternFields :=
  let text := Yaml.asOptional Yaml.asText
  let number := Yaml.asOptional Yaml.asInteger
  match name with
  | "type" => do .ok { f with kind := ← Yaml.readOnce "type" f.kind text v }
  | "filename_template" => do
    .ok { f with template := ← Yaml.readOnce "filename_template" f.template text v }
  | "from" => do .ok { f with low := ← Yaml.readOnce "from" f.low number v }
  | "to" => do .ok { f with high := ← Yaml.readOnce "to" f.high number v }
  | "list" | "values" => do
    let scalars := Yaml.asOptional (Yaml.asList Yaml.asScalar)
    .ok { f with values := ← Yaml.readOnce "list" f.values scalars v }
  | _ => .ok f

/-- Reads the fields of a filename pattern. -/
def PatternFields.ofYaml (v : Yaml) : Except DecodeError PatternFields := do
  let entries ← v.asFields "struct RawFilenamePattern"
  Yaml.readFields PatternFields.read {} entries

/-- The fields of a template entry read so far. -/
structure Fields where
  /-- The path of the template file. -/
  path : Option (Option String) := none
  /-- The pattern of the filenames. -/
  pattern : Option (Option PatternFields) := none
  /-- What is replaced in the files. -/
  replacements : Option (Option (List PositionalReplacement)) := none

/-- Reads a field of a template entry. -/
def Fields.read (f : Fields) (name : String) (v : Yaml) : Except DecodeError Fields :=
  match name with
  | "path" | "source_path" => do
    .ok { f with path := ← Yaml.readOnce "path" f.path (Yaml.asOptional Yaml.asText) v }
  | "filename_pattern" => do
    let pattern := Yaml.asOptional PatternFields.ofYaml
    .ok { f with pattern := ← Yaml.readOnce "filename_pattern" f.pattern pattern v }
  | "templated_replacements" => do
    let list := Yaml.asOptional (Yaml.asList PositionalReplacement.ofYaml)
    .ok { f with replacements := ← Yaml.readOnce "templated_replacements" f.replacements list v }
  | _ => .ok f

/-- Reads the fields of a template entry. -/
def Fields.ofYaml (v : Yaml) : Except DecodeError Fields := do
  let entries ← v.asFields "struct RawTemplateSpec"
  Yaml.readFields Fields.read {} entries

/-- What a template entry is called in messages: its filename template, or else its path. -/
def Fields.name (f : Fields) : String :=
  let template := (f.pattern.getD none).bind fun p => p.template.getD none
  (template.or (f.path.getD none)).getD "<unnamed>"

/-! ## Entries -/

/-- A field that the entry `entry` must have. -/
def require {α : Type} (entry field : String) : Option (Option α) → Except Error α
  | some (some a) => .ok a
  | _ => .error (.missingField field entry)

/-- The pattern of the filenames. -/
def PatternFields.toPattern (f : PatternFields) (entry : String) : Except Error FilenamePattern := do
  let kind ← require entry "filename_pattern.type" f.kind
  let template ← require entry "filename_pattern.filename_template" f.template
  match kind with
  | "sequential" => do
    let low ← require entry "filename_pattern.from" f.low
    let high ← require entry "filename_pattern.to" f.high
    .ok (.sequential template low high)
  | "list" => do
    let values ← require entry "filename_pattern.list" f.values
    .ok (.list template values)
  | _ => .error (.unsupportedPattern kind entry)

/-- A pattern that may be used: its range is not too long, and it has a placeholder. -/
def checkPattern (entry : String) (pattern : FilenamePattern) : Except Error Unit :=
  let placed : Except Error Unit :=
    if pattern.hasPlaceholder then .ok () else .error (.missingPlaceholder pattern.template)
  match pattern with
  | .sequential _ low high =>
    if high - low + 1 > rangeLimit then .error (.rangeTooLarge entry low high rangeLimit) else placed
  | .list _ _ => placed

/-- **Reads** a template entry. -/
def ofYaml (v : Yaml) : Except Error Template := do
  let f ← (Fields.ofYaml v).mapError Error.ofDecode
  let path ← require f.name "path" f.path
  let patternFields ← require f.name "filename_pattern" f.pattern
  let pattern ← patternFields.toPattern f.name
  checkPattern f.name pattern
  .ok ⟨Path.ofText path, pattern, (f.replacements.getD none).getD []⟩

end Template

end SiteGen

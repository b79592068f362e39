import SiteGen.Replacement.Target
import SiteGen.Scalar
import SiteGen.Yaml.Decode

/-!
# Replacements

What an override file says about replacing texts.

* A `PositionalReplacement` replaces a target in each of a list of files, by a value for each file;
  `PositionalReplacement.valuesFor` are the values, by default the numbers of the files.
* A `FilesetReplacement` replaces a target in all files that its globs select.
* `PositionalReplacement.ofYaml` and `FilesetReplacement.ofYaml` read them.
-/

namespace SiteGen

/-- A replacement in an **ordered list of files**. -/
structure PositionalReplacement where
  /-- What is replaced. -/
  target : String
  /-- The value for each file. -/
  values : Option (List Scalar)

/-- A replacement in all files that **globs** select. -/
structure FilesetReplacement where
  /-- What is replaced. -/
  target : String
  /-- What it is replaced by. -/
  value : Scalar
  /-- The globs of the files. -/
  includes : Option (List String)
  /-- The globs of the files that are left out. -/
  excludes : Option (List String)

namespace PositionalReplacement

/-- The numbers from 1 to `n`. -/
def numbers (n : Nat) : List Scalar := (List.range n).map fun i : Nat => .integer (i + 1)

/-- The **values** for `n` files: those that are given, or the numbers of the files. -/
def valuesFor (r : PositionalReplacement) (n : Nat) : List Scalar := r.values.getD (numbers n)

/-- The fields read so far. -/
structure Fields where
  /-- What is replaced. -/
  target : Option String := none
  /-- The value for each file. -/
  values : Option (Option (List Scalar)) := none

/-- Reads a field. -/
def Fields.read (f : Fields) (name : String) (v : Yaml) : Except DecodeError Fields :=
  match name with
  | "target" => do .ok { f with target := ← Yaml.readOnce "target" f.target Yaml.asText v }
  | "list" | "values" => do
    let scalars := Yaml.asOptional (Yaml.asList Yaml.asScalar)
    .ok { f with values := ← Yaml.readOnce "list" f.values scalars v }
  | _ => .ok f

/-- **Reads** a replacement. -/
def ofYaml (v : Yaml) : Except DecodeError PositionalReplacement := do
  let entries ← v.asFields "struct PositionalReplacement"
  let f ← Yaml.readFields Fields.read {} entries
  .ok ⟨← Yaml.require "target" f.target, f.values.getD none⟩

end PositionalReplacement

namespace FilesetReplacement

/-- The fields read so far. -/
structure Fields where
  /-- What is replaced. -/
  target : Option String := none
  /-- What it is replaced by. -/
  value : Option Scalar := none
  /-- The globs of the files. -/
  includes : Option (Option (List String)) := none
  /-- The globs of the files that are left out. -/
  excludes : Option (Option (List String)) := none

/-- Reads a field. -/
def Fields.read (f : Fields) (name : String) (v : Yaml) : Except DecodeError Fields :=
  let globs := Yaml.asOptional (Yaml.asList Yaml.asText)
  match name with
  | "target" => do .ok { f with target := ← Yaml.readOnce "target" f.target Yaml.asText v }
  | "value" => do .ok { f with value := ← Yaml.readOnce "value" f.value Yaml.asScalar v }
  | "include" => do .ok { f with includes := ← Yaml.readOnce "include" f.includes globs v }
  | "exclude" => do .ok { f with excludes := ← Yaml.readOnce "exclude" f.excludes globs v }
  | _ => .ok f

/-- **Reads** a replacement. -/
def ofYaml (v : Yaml) : Except DecodeError FilesetReplacement := do
  let entries ← v.asFields "struct FilesetReplacement"
  let f ← Yaml.readFields Fields.read {} entries
  let target ← Yaml.require "target" f.target
  let value ← Yaml.require "value" f.value
  .ok ⟨target, value, f.includes.getD none, f.excludes.getD none⟩

end FilesetReplacement

end SiteGen

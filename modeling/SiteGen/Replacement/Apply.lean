import SiteGen.Replacement.Basic
import SiteGen.Tree.Copy
import SiteGen.Tree.Select

/-!
# Carrying out replacements

* `PositionalReplacement.apply` rewrites each of its files with the value at its position.
* `FilesetReplacement.apply` rewrites the files that its globs select below a directory, and counts
  those whose text has changed. The override file is never selected.
* `applyBy` is each of them with another way to put a value in a text.
-/

namespace SiteGen

namespace PositionalReplacement

/-- Rewrites one file, where `put` puts a value in a text. -/
def applyToBy (put : String → String → String) (value : Scalar) (path : Path) : Run Unit := do
  let text ← fileText path
  putText path (put value.written text)

/-- Rewrites files one after the other, where `put` puts a value in a text. -/
def applyBy (put : String → String → String) (r : PositionalReplacement) (files : List Path) :
    Run Unit := do
  let values := r.valuesFor files.length
  if values.length ≠ files.length then
    Run.fail (.countMismatch r.target values.length files.length)
  else (values.zip files).forM fun (value, path) => applyToBy put value path

/-- Rewrites one file. -/
def applyTo (r : PositionalReplacement) : Scalar → Path → Run Unit :=
  applyToBy (Target.mk r.target).replaceAll

/-- **Rewrites** the files one after the other. -/
def apply (r : PositionalReplacement) : List Path → Run Unit :=
  r.applyBy (Target.mk r.target).replaceAll

theorem apply_eq (r : PositionalReplacement) (files : List Path) :
    r.apply files =
      if (r.valuesFor files.length).length ≠ files.length then
        Run.fail (.countMismatch r.target (r.valuesFor files.length).length files.length)
      else ((r.valuesFor files.length).zip files).forM fun x => r.applyTo x.1 x.2 := rfl

end PositionalReplacement

namespace FilesetReplacement

/-- The override file of a site. -/
def overrideName : String := "variance.yml"

/-- The glob of the files where none is given. -/
def defaultInclude : String := "config/**/*.json"

/-- The files that are **selected** below a directory. -/
def resolve (r : FilesetReplacement) (root : Path) : Run (List Path) :=
  selectPaths root (r.includes.getD [defaultInclude]) (r.excludes.getD [] ++ [overrideName])

/-- Rewrites one file, where `put` puts a value in a text, and says whether its text has changed. A path
that leads nowhere is remarked. -/
def applyToBy (put : String → String → String) (r : FilesetReplacement) (path : Path) : Run Bool := do
  if ← Run.inspect (·.hasFile path) then do
    let text ← Run.query (·.readText path)
    let changed := put r.value.written text
    if changed = text then pure false
    else do
      putText path changed
      pure true
  else do
    if ← Run.inspect (·.hasDirectory path) then pure false
    else do
      Run.warn (.missingFile path.text)
      pure false

/-- Rewrites files one after the other, where `put` puts a value in a text, and counts those whose text
has changed. -/
def applyEachBy (put : String → String → String) (r : FilesetReplacement) : List Path → Run Nat
  | [] => pure 0
  | path :: rest => do
    let changed ← r.applyToBy put path
    let n ← r.applyEachBy put rest
    pure ((if changed then 1 else 0) + n)

/-- Rewrites the files that are selected below a directory, where `put` puts a value in a text. -/
def applyBy (put : String → String → String) (r : FilesetReplacement) (root : Path) : Run Nat := do
  let files ← r.resolve root
  r.applyEachBy put files

/-- Rewrites one file, and says whether its text has changed. -/
def applyTo (r : FilesetReplacement) : Path → Run Bool := r.applyToBy (Target.mk r.target).replaceAll

/-- Rewrites files one after the other, and counts those whose text has changed. -/
def applyEach (r : FilesetReplacement) : List Path → Run Nat :=
  r.applyEachBy (Target.mk r.target).replaceAll

/-- **Rewrites** the files that are selected below a directory. -/
def apply (r : FilesetReplacement) : Path → Run Nat := r.applyBy (Target.mk r.target).replaceAll

theorem applyEach_cons (r : FilesetReplacement) (path : Path) (rest : List Path) :
    r.applyEach (path :: rest) = (do
      let changed ← r.applyTo path
      let n ← r.applyEach rest
      pure ((if changed then 1 else 0) + n)) := rfl

theorem apply_eq (r : FilesetReplacement) (root : Path) :
    r.apply root = r.resolve root >>= r.applyEach := rfl

end FilesetReplacement

/-- A replacement with the **files** that it is about. -/
inductive Replacement where
  /-- A replacement in the given files. -/
  | positional (r : PositionalReplacement) (files : List Path)
  /-- A replacement in the files selected below a directory. -/
  | fileset (r : FilesetReplacement) (root : Path)

namespace Replacement

/-- What is replaced. -/
def target : Replacement → String
  | .positional r _ => r.target
  | .fileset r _ => r.target

/-- What it is replaced by. -/
def values : Replacement → List Scalar
  | .positional r files => r.valuesFor files.length
  | .fileset r _ => [r.value]

/-- The files. -/
def files : Replacement → Run (List Path)
  | .positional _ files => pure files
  | .fileset r root => r.resolve root

/-- **Carries out** the replacement, and counts the files. -/
def apply : Replacement → Run Nat
  | .positional r files => do
    r.apply files
    pure files.length
  | .fileset r root => r.apply root

end Replacement

end SiteGen

import SiteGen.Replacement.Apply
import SiteGen.Template.Basic

/-!
# Expanding templates

* `Template.expand` copies a template file next to itself, once for each value of the pattern, carries
  out the replacements in the copies, and removes the template, unless a copy has its name.
-/

namespace SiteGen.Template

/-- The path of the file for a value. -/
def pathFor (t : Template) (source : Path) (value : Scalar) : Path :=
  source.withName (t.pattern.filenameFor value)

/-- Copies the template, if the copy has another name. -/
def copyTo (source path : Path) : Run Unit :=
  if path.same source then pure () else Run.change (·.copyFile source path)

/-- **Expands** a template below a directory, and gives the files. -/
def expand (t : Template) (base : Path) : Run (List Path) := do
  let source := base.join t.source
  if !(← Run.inspect (·.hasFile source)) then Run.fail (.templateNotFound source)
  else do
    if t.pattern.values.isEmpty then Run.warn (.emptyPattern t.pattern.template)
    let files := t.pattern.values.map (t.pathFor source)
    files.forM (copyTo source)
    t.replacements.forM (·.apply files)
    if files.any (·.same source) then pure files
    else do
      Run.change (·.removeFile source)
      pure files

end SiteGen.Template

import SiteGen.Disk.Walk
import SiteGen.Run

/-!
# Copying and moving trees

* `copyTree` copies all that is below a directory into another one, over what is there already.
* `moveTree` moves a directory; if something is at its goal, it is copied there and then removed.
* `fileText` is the text of a file.
-/

namespace SiteGen

/-- The text of a file; a path to anything else is not found. -/
def fileText (path : Path) : Run String := do
  if ← Run.inspect (·.hasFile path) then Run.query (·.readText path)
  else Run.fail (.fileNotFound path)

/-- Overwrites a file. -/
def putText (path : Path) (text : String) : Run Unit := Run.change (·.writeText path text)

/-- Makes a directory and those above it. -/
def makeDirectories (path : Path) : Run Unit := Run.tryChange (·.makeDirectories path)

/-- Copies one thing met on a walk to its place below the goal: directories are made, of everything
else the content is copied. -/
def copyVisit (goal : Path) (v : Visit) : Run Unit := do
  let target := goal.join v.relative
  if v.entry.isDirectory then makeDirectories target
  else do
    match target.parent? with
    | some parent => makeDirectories parent
    | none => pure ()
    Run.change (·.copyFile v.path target)

/-- Copies what is met first, and then, if it is a directory, what was in it when it was met. `n`
bounds the depth. -/
def copyFrom (goal : Path) : Nat → Bool → Visit → Run Unit
  | 0, _, _ => pure ()
  | n + 1, descend, v => do
    if descend then
      let children ← Run.inspect (·.listing v.path)
      copyVisit goal v
      match children with
      | .error fault => Run.fail (.walk v.path fault)
      | .ok children =>
        children.forM fun (name, e) =>
          copyFrom goal n e.isDirectory ⟨v.path.join ⟨[name]⟩, v.names ++ [name], e⟩
    else copyVisit goal v

/-- **Copies a tree** over another one. -/
def copyTree (source goal : Path) : Run Unit := do
  match ← Run.inspect (·.rootEntry source) with
  | .error fault => Run.fail (.walk source fault)
  | .ok e => do
    let n ← Run.inspect (·.depthBound)
    let descend ← Run.inspect (·.entrance source)
    copyFrom goal (n + 1) descend ⟨source, [], e⟩

/-- **Moves a tree**, merging it into what is at the goal. -/
def moveTree (source goal : Path) : Run Unit := do
  if ← Run.inspect (·.hasAny goal) then do
    copyTree source goal
    Run.tryChange (·.removeAll source)
  else Run.change (·.rename source goal)

end SiteGen

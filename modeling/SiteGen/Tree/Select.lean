import SiteGen.Disk.Walk
import SiteGen.Run

/-!
# Selecting by globs

* `selects` says whether globs select a path: one of the including globs matches, and none of the
  excluding ones.
* `selectPaths` lists what globs select below a directory, whatever it is.
-/

namespace SiteGen

/-- Whether globs **select** a path. -/
def selects (includes excludes : List Glob) (relative : String) : Bool :=
  Glob.anyAccepts includes relative && !Glob.anyAccepts excludes relative

/-- What the globs select among the things met on a walk. -/
def selectVisits (includes excludes : List Glob) (visits : List Visit) : List Path :=
  (visits.filter fun v => selects includes excludes v.relative.text).map (·.path)

/-- What patterns select below a directory of a disk. -/
def Disk.select (d : Disk) (root : Path) (includes excludes : List String) :
    Except Error (List Path) := do
  let includes ← (Glob.ofPatterns includes).mapError Error.glob
  let excludes ← (Glob.ofPatterns excludes).mapError Error.glob
  let visits ← (d.walk root).mapError fun (path, fault) => Error.walk path fault
  .ok (selectVisits includes excludes visits)

/-- **What patterns select** below a directory, in the order of a walk. -/
def selectPaths (root : Path) (includes excludes : List String) : Run (List Path) := do
  let selected ← Run.inspect (·.select root includes excludes)
  Run.ofResult selected

end SiteGen

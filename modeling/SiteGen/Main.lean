import SiteGen.CommandLine

/-!
# The program

The workspace is read into a disk, the program runs on it, and what has changed is written back.
-/

namespace SiteGen.Main

/-- The place of an absolute path. -/
def placeOf (path : String) : Place := (Path.ofText path).segments.filter (!Path.isIdle ·)

/-- The absolute path of a place. -/
def textOf (p : Place) : String := "/" ++ "/".intercalate p

/-- With the directories above a place. -/
def addAbove (d : Disk) (p : Place) : Disk :=
  (List.range p.length).foldl (fun d n =>
    if (d.find? (p.take n)).isSome then d else d.insert (p.take n) .directory) d

/-- What an action gives, if it does not fail. -/
def attempt {α : Type} (action : IO α) : IO (Option α) := do
  try
    let a ← action
    return some a
  catch _ => return none

/-- Reads what is at a place and below it, and what is where links lead. -/
partial def load (d : Disk) (p : Place) : IO Disk := do
  match ← attempt (do (← IO.FS.realPath (textOf p)).readDir) with
  | none =>
    match ← attempt (IO.FS.readBinFile (textOf p)) with
    | some content => return d.insert p (.file content)
    | none => return d
  | some entries => do
    let mut d := if p.isEmpty then d else d.insert p .directory
    for entry in entries do
      let next := p ++ [entry.fileName]
      let isLink := match (← entry.path.symlinkMetadata).type with
        | .symlink => true
        | _ => false
      if !isLink then d ← load d next
      else match ← attempt (IO.FS.realPath entry.path) with
        | none => d := d.insert next (.link (Path.ofText ""))
        | some target => do
          let goal := placeOf target.toString
          d := d.insert next (.link (Path.ofText target.toString))
          if (d.find? goal).isNone then d ← load (addAbove d goal) goal
    return d

/-- Whether two entries are of one kind. -/
def sameKind : Entry → Entry → Bool
  | .directory, .directory => true
  | .file _, .file _ => true
  | .link _, .link _ => true
  | _, _ => false

/-- Removes what is gone, and writes what is new or has changed. -/
def save (before after : Disk) : IO Unit := do
  for (p, e) in before.toList.reverse do
    if !(after.find? p).any (sameKind e) then
      if e.isDirectory then IO.FS.removeDir (textOf p) else IO.FS.removeFile (textOf p)
  for (p, e) in after.toList do
    if before.find? p ≠ some e then
      match e with
      | .directory => IO.FS.createDir (textOf p)
      | .file content => IO.FS.writeBinFile (textOf p) content
      | .link _ => pure ()

/-- The directory of the workspace that arguments and the environment ask for. -/
def rootOf (args : List String) (environment : Option String) : String :=
  match CommandLine.read args with
  | .ok o => (o.root.or environment).getD "."
  | .error _ => "."

/-- The disk on which the program runs: all that is in the workspace. -/
def diskFor (home : String) (root : String) : IO Disk := do
  let empty : Disk := ⟨∅, placeOf home⟩
  let d := addAbove empty (placeOf home)
  let d := if d.home.isEmpty then d else d.insert d.home .directory
  match ← attempt (IO.FS.realPath root) with
  | some path => load (addAbove d (placeOf path.toString)) (placeOf path.toString)
  | none => return d

end SiteGen.Main

open SiteGen in
/-- Runs the program. -/
def main (args : List String) : IO UInt32 := do
  let environment ← IO.getEnv "VARIANCE_ROOT"
  let home ← IO.currentDir
  let before ← Main.diskFor home.toString (Main.rootOf args environment)
  let (outcome, world) := CommandLine.run args environment ⟨before, []⟩
  Main.save before world.disk
  IO.print outcome.output
  IO.eprint outcome.error
  return outcome.exit.toUInt32

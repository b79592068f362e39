import SiteGen.Disk.Resolve

/-!
# Reading and writing

The single operations on a disk. Each either fails with a fault and changes nothing, or gives the
disk afterwards.

* `Disk.readBytes`, `readText` and `listing` read.
* `Disk.writeBytes`, `makeDirectory`, `makeLink`, `removeFile`, `removeAll`, `rename` and `copyFile`
  write. `copyFile` opens the copy before it reads, so that a file copied to itself is emptied.
* `Disk.makeDirectories` makes a directory and those above it.
-/

namespace SiteGen.Disk

/-! ## Reading -/

/-- The bytes of a file. -/
def readBytes (d : Disk) (p : Path) : Except Fault ByteArray := do
  match (← d.look p).2 with
  | .file content => .ok content
  | _ => .error .isDirectory

/-- The text of a file. -/
def readText (d : Disk) (p : Path) : Except Fault String := do
  match String.fromUTF8? (← d.readBytes p) with
  | some text => .ok text
  | none => .error .notText

/-- The names in a directory, with what is there, in the order of the names. -/
def listing (d : Disk) (p : Path) : Except Fault (List (String × Entry)) := do
  match ← d.look p with
  | (place, .directory) => .ok (d.names place)
  | _ => .error .notDirectory

/-! ## Writing -/

/-- With a file of the given bytes, new or overwritten. -/
def writeBytes (d : Disk) (p : Path) (content : ByteArray) : Except Fault Disk := do
  let place ← d.locate .make p
  match d.find? place with
  | some .directory => .error .isDirectory
  | _ => .ok (d.insert place (.file content))

/-- With a file of the given text, new or overwritten. -/
def writeText (d : Disk) (p : Path) (text : String) : Except Fault Disk :=
  d.writeBytes p text.toUTF8

/-- A path without slashes at its end. -/
def withoutSlash (p : Path) : Path :=
  if p.isAbsolute then ⟨"" :: Path.trimSlashes (p.segments.drop 1)⟩
  else ⟨Path.trimSlashes p.segments⟩

/-- The place of a name that may be missing, its directory being there; slashes at the end of the path
do not matter, other than for its length. -/
def locateName (d : Disk) (p : Path) : Except Fault Place := do
  p.accept
  d.resolve .name linkLimit (d.origin p) (withoutSlash p).segments

/-- With something new at a path. -/
def make (d : Disk) (p : Path) (e : Entry) : Except Fault Disk := do
  let place ← d.locateName p
  match d.find? place with
  | some _ => .error .exists
  | none => .ok (d.insert place e)

/-- With a new directory. -/
def makeDirectory (d : Disk) (p : Path) : Except Fault Disk := d.make p .directory

/-- With a new link. -/
def makeLink (d : Disk) (p target : Path) : Except Fault Disk := d.make p (.link target)

/-- With a directory at a path, which may be there already. -/
def ensureDirectory (d : Disk) (p : Path) : Except Fault Disk :=
  match d.makeDirectory p with
  | .error .exists => if d.hasDirectory p then .ok d else .error .exists
  | outcome => outcome

/-- With the first of some nested directories that does not lack the one above it, and the
directories below that are still missing. -/
def makeLowest (d : Disk) : List Path → List Path → Except Fault (Disk × List Path)
  | [], lacking => .ok (d, lacking)
  | p :: above, lacking =>
    if p.isEmpty then .ok (d, lacking)
    else match d.ensureDirectory p with
      | .ok d => .ok (d, lacking)
      | .error .notFound => makeLowest d above (p :: lacking)
      | .error fault => .error fault

/-- With directories at paths, one after the other: the disk when it ends or fails, and the fault. -/
def makeEach (d : Disk) : List Path → Disk × Option Fault
  | [] => (d, none)
  | p :: rest =>
    match d.ensureDirectory p with
    | .ok d => makeEach d rest
    | .error fault => (d, some fault)

/-- With a directory at a path and **all directories above it**; if one cannot be made, those before
it stay. -/
def makeDirectories (d : Disk) (p : Path) : Disk × Option Fault :=
  match d.makeLowest p.ancestors [] with
  | .ok (d, lacking) => d.makeEach lacking
  | .error fault => (d, some fault)

/-! ## Removing -/

/-- Without the file or link at a path. -/
def removeFile (d : Disk) (p : Path) : Except Fault Disk := do
  match ← d.lookAt p with
  | (_, .directory) => .error .isDirectory
  | (place, _) => .ok (d.erase place)

/-- The last segment of a path, slashes at its end left out. -/
def lastSegment (p : Path) : String := (Path.trimSlashes p.segments).getLast?.getD ""

/-- Without the directory at a path and **all that is in it**; of a link only the link goes. A
directory called by dots loses what is in it before it turns out that it cannot go itself. -/
def removeAll (d : Disk) (p : Path) : Disk × Option Fault :=
  match d.lookAt p with
  | .error fault => (d, some fault)
  | .ok (_, .file _) => (d, some .notDirectory)
  | .ok (place, .link _) => (d.erase place, none)
  | .ok (place, .directory) =>
    if lastSegment p == "." then ((d.eraseBelow place).insert place .directory, some .invalidArgument)
    else if lastSegment p == ".." then
      ((d.eraseBelow place).insert place .directory, some .notFound)
    else (d.eraseBelow place, none)

/-! ## Moving and copying -/

/-- Whether the last segment of a path is dots, or there is none. -/
def endsInDots (p : Path) : Bool := ["", ".", ".."].contains (lastSegment p)

/-- With all that is at and below a place moved to another place. -/
def moveBelow (d : Disk) (p q : Place) : Disk :=
  let moved := d.toList.filter fun (r, _) => p.isPrefixOf r
  moved.foldl (fun d (r, e) => d.insert (q ++ r.drop p.length) e) ((d.eraseBelow p).eraseBelow q)

/-- Whether a path ends in a slash. -/
def endsInSlash (p : Path) : Bool := p.segments.getLast? == some ""

/-- With what is at a path **moved** to another one: a file replaces a file or a link, a directory
only an empty directory, and no directory goes into itself. -/
def rename (d : Disk) (p q : Path) : Except Fault Disk := do
  let source ← d.locateName p
  let goal ← d.locateName q
  if endsInDots p || endsInDots q then .error .busy
  match d.find? source, d.find? goal with
  | none, _ => .error .notFound
  | some e, old =>
    if !e.isDirectory && (endsInSlash p || endsInSlash q) then .error .notDirectory
    else if source == goal then .ok d
    else if source.isPrefixOf goal then .error .invalidArgument
    else if goal.isPrefixOf source then .error .notEmpty
    else match old with
      | none => .ok (d.moveBelow source goal)
      | some .directory =>
        if !e.isDirectory then .error .isDirectory
        else if (d.names goal).isEmpty then .ok (d.moveBelow source goal)
        else .error .notEmpty
      | some _ => if e.isDirectory then .error .notDirectory else .ok (d.moveBelow source goal)

/-- With a **copy** of a file at a path. -/
def copyFile (d : Disk) (p q : Path) : Except Fault Disk := do
  match ← d.look p with
  | (_, .file _) => do
    let d ← d.writeBytes q ByteArray.empty
    let content ← d.readBytes p
    d.writeBytes q content
  | _ => .error .notRegular

end SiteGen.Disk

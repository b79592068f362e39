import SiteGen.Disk.Operations

/-!
# Walks

What is below a directory: a directory comes before what is in it, and what is in one directory comes
in the order of the names. Links are not followed, except at the very start.

* `Disk.rootEntry` is what is at the start of a walk, `Disk.entrance` whether the walk goes down
  there.
* `Disk.below` lists all that is below a directory.
-/

namespace SiteGen

/-- Something met on a **walk**. -/
structure Visit where
  /-- The path by which it is called. -/
  path : Path
  /-- The names on the way from where the walk started. -/
  names : List String
  /-- What it is. -/
  entry : Entry

/-- The names on the way, as a path. -/
def Visit.relative (v : Visit) : Path := ⟨if v.names.isEmpty then [""] else v.names⟩

namespace Disk

/-- A bound on how deep a walk can go. -/
def depthBound (d : Disk) : Nat := d.size + pathLimit

/-- What is at the start of a walk. A link that leads nowhere is a fault. -/
def rootEntry (d : Disk) (root : Path) : Except Fault Entry := do
  let (_, e) ← d.lookAt root
  match e with
  | .link _ => do
    let _ ← d.look root
    .ok e
  | e => .ok e

/-- Whether a walk goes down from its start. -/
def entrance (d : Disk) (root : Path) : Bool := d.hasDirectory root

/-- All that is in a directory and **below**; if a directory cannot be listed, its path and the
fault. `n` bounds the depth. -/
def below (d : Disk) : Nat → Path → List String → Except (Path × Fault) (List Visit)
  | 0, _, _ => .ok []
  | n + 1, path, names =>
    match d.listing path with
    | .error fault => .error (path, fault)
    | .ok children => do
      let parts ← children.mapM fun (name, e) => do
        let v : Visit := ⟨path.join ⟨[name]⟩, names ++ [name], e⟩
        let rest ← if e.isDirectory then d.below n v.path v.names else .ok []
        .ok (v :: rest)
      .ok parts.flatten

/-- **All that is below** the start of a walk. -/
def walk (d : Disk) (root : Path) : Except (Path × Fault) (List Visit) := do
  let _ ← (d.rootEntry root).mapError (root, ·)
  if d.entrance root then d.below d.depthBound root [] else .ok []

end Disk

end SiteGen

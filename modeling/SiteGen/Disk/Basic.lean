import Std.Data.ExtTreeMap
import SiteGen.Path

/-!
# Disks

A disk is a finite map from places to what is there. A **place** is the list of the names on the way
from the root; the root itself is always a directory.

* `Disk.find?` looks at a place; `insert`, `erase` and `eraseBelow` change it, and the lemmas beside
  them say what `find?` sees afterwards.
* `Disk.names` lists the names in a directory, in their order.
-/

namespace SiteGen

/-- Where something is on a disk: the names from the root on. -/
abbrev Place := List String

/-- What is at a **place**. -/
inductive Entry where
  /-- A directory. -/
  | directory
  /-- A file with its bytes. -/
  | file (content : ByteArray)
  /-- A link to a path. -/
  | link (target : Path)

namespace Entry

instance : DecidableEq Entry
  | .directory, .directory => isTrue rfl
  | .file a, .file b =>
    match ByteArray.instDecidableEq a b with
    | isTrue h => isTrue (congrArg file h)
    | isFalse h => isFalse fun e => h (file.inj e)
  | .link p, .link q =>
    match decEq p q with
    | isTrue h => isTrue (congrArg link h)
    | isFalse h => isFalse fun e => h (link.inj e)
  | .directory, .file _ | .directory, .link _ | .file _, .directory => isFalse nofun
  | .file _, .link _ | .link _, .directory | .link _, .file _ => isFalse nofun

/-- Whether it is a directory. -/
def isDirectory : Entry → Bool
  | .directory => true
  | _ => false

/-- Whether it is a file. -/
def isFile : Entry → Bool
  | .file _ => true
  | _ => false

end Entry

/-- A **disk**, with the directory at which relative paths start. -/
@[ext]
structure Disk where
  /-- What is at each place other than the root. -/
  entries : Std.ExtTreeMap Place Entry
  /-- Where relative paths start. -/
  home : Place

namespace Disk

/-- What is at a place. -/
def find? (d : Disk) (p : Place) : Option Entry :=
  if p = [] then some .directory else d.entries[p]?

/-- With an entry at a place. -/
def insert (d : Disk) (p : Place) (e : Entry) : Disk := { d with entries := d.entries.insert p e }

/-- With nothing at a place. -/
def erase (d : Disk) (p : Place) : Disk := { d with entries := d.entries.erase p }

/-- With nothing at a place and below it. -/
def eraseBelow (d : Disk) (p : Place) : Disk :=
  { d with entries := d.entries.filter fun q _ => !p.isPrefixOf q }

theorem find?_insert (d : Disk) (p q : Place) (e : Entry) (hp : p ≠ []) :
    (d.insert p e).find? q = if p = q then some e else d.find? q := by
  by_cases hq : q = []
  · subst hq
    simp [find?, hp]
  · simp only [find?, insert, hq, if_false, Std.ExtTreeMap.getElem?_insert,
      Std.LawfulEqCmp.compare_eq_iff_eq]

theorem find?_erase (d : Disk) (p q : Place) (hp : p ≠ []) :
    (d.erase p).find? q = if p = q then none else d.find? q := by
  by_cases hq : q = []
  · subst hq
    simp [find?, hp]
  · simp only [find?, erase, hq, if_false, Std.ExtTreeMap.getElem?_erase,
      Std.LawfulEqCmp.compare_eq_iff_eq]

@[simp]
theorem home_insert (d : Disk) (p : Place) (e : Entry) : (d.insert p e).home = d.home := rfl

@[simp]
theorem home_erase (d : Disk) (p : Place) : (d.erase p).home = d.home := rfl

@[simp]
theorem home_eraseBelow (d : Disk) (p : Place) : (d.eraseBelow p).home = d.home := rfl

/-- The places and what is there, in the order of the places. -/
def toList (d : Disk) : List (Place × Entry) := d.entries.toList

/-- The last name of a place directly below another one. -/
def childName? (p q : Place) : Option String :=
  match q.drop p.length with
  | [name] => if p.isPrefixOf q then some name else none
  | _ => none

/-- The **names** in a directory, with what is there, in the order of the names. -/
def names (d : Disk) (p : Place) : List (String × Entry) :=
  d.toList.filterMap fun (q, e) => (childName? p q).map (·, e)

/-- The number of places at which something is. -/
def size (d : Disk) : Nat := d.entries.size

end Disk

end SiteGen

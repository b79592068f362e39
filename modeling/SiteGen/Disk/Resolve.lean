import SiteGen.Disk.Basic
import SiteGen.Disk.Fault

/-!
# Places of paths

A path leads to a place: every name on the way must be a directory or a link to one. The last name
may be missing; whether a link there is followed depends on what the path is wanted for.

* `Path.accept` refuses a path that is empty, is too long or contains a null character.
* `Disk.resolve` goes down the segments, with a bound on the number of links; `resolve_nil` and
  `resolve_cons` are its equations.
* `Disk.locate` gives the place of a path, `Disk.look` what is there after links, `Disk.lookAt` what
  is there itself.
-/

namespace SiteGen

/-- What a path is **wanted for**. -/
inductive Purpose where
  /-- What is at the end, after links. -/
  | use
  /-- The file at the end, after links, which may still have to be made. -/
  | make
  /-- The name at the end itself. -/
  | name
deriving DecidableEq, Repr

namespace Disk

/-- How many links may be on a path. -/
def linkLimit : Nat := 40

/-- How many bytes a name may have. -/
def nameLimit : Nat := 255

/-- How many bytes a path may have. -/
def pathLimit : Nat := 4095

end Disk

namespace Path

/-- Whether a path has **too many bytes**. -/
def isLong (p : Path) : Bool := decide (Disk.pathLimit < p.text.utf8ByteSize)

/-- Whether a path is **accepted**, which is settled before anything is looked up. -/
def accept (p : Path) : Except Fault Unit :=
  if p.text.toList.contains '\x00' then .error .nulInPath
  else if p.isEmpty then .error .notFound
  else if p.isLong then .error .nameTooLong
  else .ok ()

end Path

namespace Disk

/-- Where a path starts. -/
def origin (d : Disk) (p : Path) : Place := if p.isAbsolute then [] else d.home

/-- The fault of a path on which a name is missing. -/
def missing (name : String) : Fault :=
  if nameLimit < name.utf8ByteSize then .nameTooLong else .notFound

/-- The place to which segments lead from a **directory**; `jump` goes on from a link, with the
segments of its target before the rest. -/
def resolveWith (d : Disk) (purpose : Purpose) (jump : Place → List String → Except Fault Place)
    (place : Place) : List String → Except Fault Place
  | [] => .ok place
  | segment :: rest =>
    if Path.isIdle segment then resolveWith d purpose jump place rest
    else if segment = ".." then resolveWith d purpose jump place.dropLast rest
    else
      let next := place ++ [segment]
      let making := purpose == .make && rest.all (· == "")
      match d.find? next with
      | some .directory => resolveWith d purpose jump next rest
      | some (.link target) =>
        if purpose == .name && rest.isEmpty then .ok next
        else jump (if target.isAbsolute then [] else place) (target.segments ++ rest)
      | some (.file _) =>
        if rest.isEmpty then .ok next
        else if making then .error .isDirectory else .error .notDirectory
      | none =>
        if rest.isEmpty && missing segment == .notFound then .ok next
        else if making && missing segment == .notFound then .error .isDirectory
        else .error (missing segment)

/-- The place to which segments lead from a directory, with at most so many **links** on the way. -/
def resolve (d : Disk) (purpose : Purpose) : Nat → Place → List String → Except Fault Place
  | 0 => d.resolveWith purpose fun _ _ => .error .linkLoop
  | links + 1 => d.resolveWith purpose (resolve d purpose links)

/-- Where a link leads, if so many may still be on the way. -/
def jump (d : Disk) (purpose : Purpose) : Nat → Place → List String → Except Fault Place
  | 0, _, _ => .error .linkLoop
  | links + 1, place, segments => d.resolve purpose links place segments

theorem resolve_eq (d : Disk) (purpose : Purpose) (links : Nat) :
    d.resolve purpose links = d.resolveWith purpose (d.jump purpose links) := by
  cases links <;> rfl

theorem resolve_nil (d : Disk) (purpose : Purpose) (links : Nat) (place : Place) :
    d.resolve purpose links place [] = .ok place := by
  rw [resolve_eq, resolveWith]

theorem resolve_cons (d : Disk) (purpose : Purpose) (links : Nat) (place : Place)
    (segment : String) (rest : List String) :
    d.resolve purpose links place (segment :: rest) =
      if Path.isIdle segment then d.resolve purpose links place rest
      else if segment = ".." then d.resolve purpose links place.dropLast rest
      else match d.find? (place ++ [segment]) with
        | some .directory => d.resolve purpose links (place ++ [segment]) rest
        | some (.link target) =>
          if purpose == .name && rest.isEmpty then .ok (place ++ [segment])
          else d.jump purpose links (if target.isAbsolute then [] else place)
            (target.segments ++ rest)
        | some (.file _) =>
          if rest.isEmpty then .ok (place ++ [segment])
          else if purpose == .make && rest.all (· == "") then .error .isDirectory
          else .error .notDirectory
        | none =>
          if rest.isEmpty && missing segment == .notFound then .ok (place ++ [segment])
          else if (purpose == .make && rest.all (· == "")) && missing segment == .notFound then
            .error .isDirectory
          else .error (missing segment) := by
  simp only [resolve_eq]
  rfl

/-- The place of a **path**. -/
def locate (d : Disk) (purpose : Purpose) (p : Path) : Except Fault Place := do
  p.accept
  d.resolve purpose linkLimit (d.origin p) p.segments

/-- What is at the place of a path; something must be there. -/
def lookFor (d : Disk) (purpose : Purpose) (p : Path) : Except Fault (Place × Entry) := do
  let place ← d.locate purpose p
  match d.find? place with
  | some e => .ok (place, e)
  | none => .error .notFound

/-- What is at the end of a path, links followed. -/
def look (d : Disk) (p : Path) : Except Fault (Place × Entry) := d.lookFor .use p

/-- What is at the end of a path itself. -/
def lookAt (d : Disk) (p : Path) : Except Fault (Place × Entry) := d.lookFor .name p

/-- Whether a path leads to something. -/
def hasAny (d : Disk) (p : Path) : Bool := (d.look p).toOption.isSome

/-- Whether a path leads to a file. -/
def hasFile (d : Disk) (p : Path) : Bool := (d.look p).toOption.any (·.2.isFile)

/-- Whether a path leads to a directory. -/
def hasDirectory (d : Disk) (p : Path) : Bool := (d.look p).toOption.any (·.2.isDirectory)

end Disk

end SiteGen

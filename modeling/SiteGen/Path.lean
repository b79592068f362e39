/-!
# Paths

A path is the list of the segments between its slashes, so that its text is kept exactly: a slash at
the beginning or at the end gives an empty segment.

* `Path.join` continues a path by another one, which starts anew if it is absolute.
* `Path.parts` leaves out what does not matter: doubled slashes, a slash at the end, and single dots
  other than a leading one. Two paths are the `same` if their parts are.
* `Path.parent?` and `Path.withName` drop and replace the last part.
-/

namespace SiteGen

/-- A **path**, by its segments. -/
structure Path where
  /-- The texts between the slashes. -/
  segments : List String
deriving DecidableEq, Repr, Inhabited

namespace Path

/-- The texts between the slashes of a text. -/
def split : List Char → List (List Char)
  | [] => [[]]
  | c :: rest =>
    if c = '/' then [] :: split rest
    else match split rest with
      | [] => [[c]]
      | segment :: segments => (c :: segment) :: segments

/-- The path with a text. -/
def ofText (text : String) : Path := ⟨(split text.toList).map String.ofList⟩

/-- The text of a path. -/
def text (p : Path) : String := "/".intercalate p.segments

/-- Whether a path starts at the root. -/
def isAbsolute (p : Path) : Bool :=
  match p.segments with
  | "" :: _ :: _ => true
  | _ => false

/-- Whether the text of a path is empty. -/
def isEmpty (p : Path) : Bool := p.segments == [""] || p.segments == []

/-- The segments without empty ones at the end. -/
def trimSlashes (segments : List String) : List String :=
  (segments.reverse.dropWhile (· == "")).reverse

/-- The path **continued** by another one. -/
def join (p q : Path) : Path :=
  if q.isAbsolute then q
  else if p.segments.getLast? == some "" then ⟨p.segments.dropLast ++ q.segments⟩
  else ⟨p.segments ++ q.segments⟩

/-- A **part** of a path. -/
inductive Part where
  /-- The root. -/
  | root
  /-- A leading dot. -/
  | here
  /-- Two dots. -/
  | up
  /-- A name. -/
  | name (s : String)
deriving DecidableEq, Repr

/-- Whether a segment does not count, unless it comes first. -/
def isIdle (segment : String) : Bool := segment == "" || segment == "."

/-- The part that a segment is. -/
def partOf (segment : String) : Part := if segment == ".." then .up else .name segment

/-- What stands before the names of a path: the root, a leading dot, or nothing; and the number of
its segments. -/
def head (p : Path) : List Part × Nat :=
  if p.isAbsolute then ([.root], 1)
  else match p.segments with
    | "." :: _ => ([.here], 1)
    | _ => ([], 0)

/-- The **parts** of a path that matter. -/
def parts (p : Path) : List Part :=
  let (first, n) := p.head
  first ++ ((p.segments.drop n).filter (!isIdle ·)).map partOf

/-- Whether two paths have the same parts. -/
def same (p q : Path) : Bool := p.parts == q.parts

/-- The body of a path without segments at its end that do not count. -/
def trimIdle (segments : List String) : List String :=
  (segments.reverse.dropWhile isIdle).reverse

/-- The path with a head and a body. -/
def ofHead (first : List Part) (body : List String) : Path :=
  match first with
  | .root :: _ => ⟨"" :: (if body.isEmpty then [""] else body)⟩
  | .here :: _ => ⟨"." :: body⟩
  | _ => ⟨if body.isEmpty then [""] else body⟩

/-- The path **without its last part**; a path without parts, and the root, have none. -/
def parent? (p : Path) : Option Path :=
  let (first, n) := p.head
  let body := trimIdle (p.segments.drop n)
  match body, first with
  | [], .here :: _ => some ⟨[""]⟩
  | [], _ => none
  | body, first => some (ofHead first (trimIdle body.dropLast))

/-- The last part of a path, if it is a name. -/
def name? (p : Path) : Option String :=
  match p.parts.getLast? with
  | some (.name s) => some s
  | _ => none

/-- The path with its last part replaced, if that is a name, or else continued. -/
def withName (p : Path) (name : String) : Path :=
  let base := if p.name?.isSome then p.parent?.getD p else p
  base.join (ofText name)

/-- The path and the paths above it, up to `n` of them. -/
def ancestorsFrom : Nat → Path → List Path
  | 0, _ => []
  | n + 1, p => p :: (match p.parent? with
    | some q => ancestorsFrom n q
    | none => [])

/-- The path and **the paths above it**, from the bottom up. -/
def ancestors (p : Path) : List Path := ancestorsFrom (p.segments.length + 1) p

end Path

end SiteGen

/-!
# Globs

A glob is a list of pieces that are matched one after the other against the bytes of a path; a
wildcard never matches a slash, unless it stands for whole directories.

* `Glob.accepts` says whether a path matches. It keeps the set of the rests that the pieces so far
  leave.
* `GlobSet.accepts` says whether some glob of a list matches.
-/

namespace SiteGen

/-- A **piece** of a glob. -/
inductive GlobPiece where
  /-- The given bytes. -/
  | literal (bytes : List UInt8)
  /-- One byte other than a slash. -/
  | anyByte
  /-- Any number of bytes other than slashes. -/
  | anyName
  /-- Nothing, or anything up to a slash. -/
  | leadingDirectories
  /-- A slash and all that comes after it. -/
  | trailingPath
  /-- A slash, or anything between two slashes. -/
  | innerDirectories
  /-- One byte in some of the ranges, or in none of them. -/
  | oneOf (negated : Bool) (ranges : List (UInt8 × UInt8))
  /-- One of several lists of pieces; those that are empty do not count. -/
  | choice (branches : List (List GlobPiece))
deriving Inhabited

/-- The byte of a slash. -/
def slash : UInt8 := 47

namespace GlobPiece

mutual

/-- Whether a piece is nothing at all. -/
def isVoid : GlobPiece → Bool
  | .literal bytes => bytes.isEmpty
  | .choice branches => areVoidAll branches
  | _ => false

/-- Whether all pieces are nothing at all. -/
def areVoid : List GlobPiece → Bool
  | [] => true
  | piece :: pieces => isVoid piece && areVoid pieces

/-- Whether all pieces of all branches are nothing at all. -/
def areVoidAll : List (List GlobPiece) → Bool
  | [] => true
  | branch :: branches => areVoid branch && areVoidAll branches

end

/-- The text without the given bytes in front. -/
def dropLiteral? : List UInt8 → List UInt8 → Option (List UInt8)
  | [], text => some text
  | b :: bytes, c :: text => if b = c then dropLiteral? bytes text else none
  | _ :: _, [] => none

/-- The rests of a text after any number of bytes other than slashes. -/
def afterName : List UInt8 → List (List UInt8)
  | [] => [[]]
  | c :: text => (c :: text) :: (if c = slash then [] else afterName text)

/-- The rests of a text after any of its slashes. -/
def afterSlashes : List UInt8 → List (List UInt8)
  | [] => []
  | c :: text => if c = slash then text :: afterSlashes text else afterSlashes text

/-- All rests of a text. -/
def allRests : List UInt8 → List (List UInt8)
  | [] => [[]]
  | c :: text => (c :: text) :: allRests text

/-- Whether a byte is in some of the ranges. -/
def inRanges (ranges : List (UInt8 × UInt8)) (c : UInt8) : Bool :=
  ranges.any fun (a, b) => decide (a ≤ c) && decide (c ≤ b)

mutual

/-- The **rests** of a text that a piece leaves. -/
def rests : GlobPiece → List UInt8 → List (List UInt8)
  | .literal bytes, text => (dropLiteral? bytes text).toList
  | .anyByte, c :: text => if c = slash then [] else [text]
  | .anyByte, [] => []
  | .anyName, text => afterName text
  | .leadingDirectories, text => text :: afterSlashes text
  | .trailingPath, c :: text => if c = slash then allRests text else []
  | .trailingPath, [] => []
  | .innerDirectories, c :: text => if c = slash then text :: afterSlashes text else []
  | .innerDirectories, [] => []
  | .oneOf negated ranges, c :: text => if inRanges ranges c != negated then [text] else []
  | .oneOf _ _, [] => []
  | .choice branches, text =>
    if areVoidAll branches then [text] else branchRests branches text

/-- The rests that a list of pieces leaves. -/
def allOf : List GlobPiece → List (List UInt8) → List (List UInt8)
  | [], texts => texts
  | piece :: pieces, texts => allOf pieces (texts.flatMap (rests piece)).eraseDups

/-- The rests that some of the branches leave. -/
def branchRests : List (List GlobPiece) → List UInt8 → List (List UInt8)
  | [], _ => []
  | branch :: branches, text =>
    (if areVoid branch then [] else allOf branch [text]) ++ branchRests branches text

end

end GlobPiece

/-- A **glob**. -/
structure Glob where
  /-- The pieces. -/
  pieces : List GlobPiece
deriving Inhabited

namespace Glob

/-- Whether a text **matches**. -/
def accepts (g : Glob) (text : String) : Bool :=
  match g.pieces with
  | [.leadingDirectories] => true
  | pieces => (GlobPiece.allOf pieces [text.toUTF8.toList]).any (·.isEmpty)

end Glob

/-- Whether a text matches some glob of a list. -/
def Glob.anyAccepts (globs : List Glob) (text : String) : Bool := globs.any (·.accepts text)

end SiteGen

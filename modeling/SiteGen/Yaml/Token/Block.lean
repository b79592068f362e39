import SiteGen.Yaml.Cursor

/-!
# Block scalars

A scalar that is given by its indentation, its lines kept or folded.

* `BlockHeader` says how the line breaks at the end are kept and how far the text is indented.
* `Cursor.block?` reads a block scalar.
-/

namespace SiteGen.Yaml

/-- What becomes of the **line breaks at the end** of a block scalar. -/
inductive Chomping where
  /-- None is kept. -/
  | strip
  /-- One is kept. -/
  | clip
  /-- All are kept. -/
  | keep
deriving DecidableEq, Repr

/-- What the first line of a block scalar lays down. -/
structure BlockHeader where
  /-- What becomes of the line breaks at the end. -/
  chomping : Chomping
  /-- How much deeper than its surroundings the text is indented, if that is given. -/
  increment : Option Nat

namespace Cursor

/-- The sign for the line breaks at the end, if there is one. -/
def chomping? (s : Cursor) : Option Chomping × Cursor :=
  if s.at? '+' then (some .keep, s.skip)
  else if s.at? '-' then (some .strip, s.skip)
  else (none, s)

/-- The digit for the indentation, if there is one; it is not 0. -/
def increment? (s : Cursor) : Option (Option Nat × Cursor) :=
  match s.rest with
  | c :: _ =>
    if !c.isDigit then some (none, s)
    else if c == '0' then none else some (some (c.toNat - '0'.toNat), s.skip)
  | [] => some (none, s)

/-- Reads the first line of a block scalar, from after its indicator. -/
def blockHeader? (s : Cursor) : Option (BlockHeader × Cursor) := do
  let (sign, s) := s.chomping?
  let (increment, s) ← s.increment?
  let (sign, s) := if sign.isNone && increment.isSome then s.chomping? else (sign, s)
  let s := s.skipSpacing.skipComment
  if s.atLineEnd then some (⟨sign.getD .clip, increment⟩, s.skipLine) else none

/-- Past spaces, not further than column `limit` if there is a limit. -/
def skipIndent (limit : Option Nat) (s : Cursor) : Cursor :=
  let run := (s.rest.takeWhile (· == ' ')).length
  s.skipMany (match limit with
    | some column => min run (column - s.column)
    | none => run)

/-- Reads empty lines: the breaks, the deepest column reached, and the position after them. -/
def emptyLines (limit : Option Nat) : Nat → List Char → Nat → Cursor →
    Option (List Char × Nat × Cursor)
  | 0, breaks, deepest, s => some (breaks, deepest, s)
  | n + 1, breaks, deepest, s =>
    let s := s.skipIndent limit
    let deepest := max deepest s.column
    if limit.all (decide <| s.column < ·) && s.at? '\t' then none
    else if s.charAfter 0 isBreak then
      let (text, after) := s.breakLine
      emptyLines limit n (breaks ++ text) deepest after
    else some (breaks, deepest, s)

/-- The breaks between two lines of a block scalar, as they are written: in a folded scalar a single
break between two lines that begin with a word is a space, and of several the first is dropped. -/
def joint (literal : Bool) (blankBefore blankAfter : Bool) (first more : List Char) : List Char :=
  if !literal && first == ['\n'] && !blankBefore && !blankAfter then
    if more.isEmpty then [' '] else more
  else first ++ more

/-- The lines of a block scalar from the current one on, all at column `indent`: the text before the
last break, the last break, and the breaks of the empty lines after it. -/
def blockLines (literal : Bool) (indent : Nat) : Nat → List Char → Bool → List Char → List Char →
    Cursor → Option (List Char × List Char × List Char × Cursor)
  | 0, read, _, first, more, s => some (read, first, more, s)
  | n + 1, read, blankBefore, first, more, s =>
    if s.column != indent || s.rest.isEmpty then some (read, first, more, s)
    else do
      let blank := s.charAfter 0 isSpacing
      let (line, s) := s.takeLine
      let read := read ++ joint literal blankBefore blank first more ++ line
      let (first, s) := s.breakLine
      let (more, _, s) ← s.emptyLines (some indent) (s.rest.length + 1) [] 0
      blockLines literal indent n read blank first more s

/-- Reads a **block scalar**, its indicator being the next character; `indent` is the column of the
collection around it, if there is one. -/
def block? (literal : Bool) (indent : Option Nat) (s : Cursor) : Option (String × Cursor) := do
  let (header, s) ← s.skip.blockHeader?
  let limit := header.increment.map (· + indent.getD 0)
  let (breaks, deepest, s) ← s.emptyLines limit (s.rest.length + 1) [] 0
  let column := limit.getD (max deepest (max (indent.elim 0 (· + 1)) 1))
  let (read, first, more, s) ←
    blockLines literal column (s.rest.length + 1) [] false [] breaks s
  let text := match header.chomping with
    | .strip => read
    | .clip => read ++ first
    | .keep => read ++ first ++ more
  some (String.ofList text, s)

end Cursor

end SiteGen.Yaml

import SiteGen.Text.HexDigit

/-!
# Positions in YAML text

What is left of a text, with the line and the column reached, and the characters that the notation
tells apart.

* `Cursor.skip` passes one character, `Cursor.skipLine` one line break.
* `Cursor.takeRun` reads a run of characters of one class.
* `Cursor.breakLine` gives the text that a line break stands for.
-/

namespace SiteGen.Yaml

/-- Whether a character may occur in YAML text at all. -/
def isAllowed (c : Char) : Bool :=
  let n := c.toNat
  n == 0x9 || n == 0xA || n == 0xD || (0x20 ≤ n && n ≤ 0x7E) || n == 0x85 ||
    (0xA0 ≤ n && n ≤ 0xFFFD) || 0x10000 ≤ n

/-- Whether a character ends a line. -/
def isBreak (c : Char) : Bool :=
  c == '\n' || c == '\r' || c == '\x85' || c == '\u2028' || c == '\u2029'

/-- Whether a character is a space or a tab. -/
def isSpacing (c : Char) : Bool := c == ' ' || c == '\t'

/-- Whether a character may occur in the name of an anchor, a directive or a tag handle. -/
def isNameChar (c : Char) : Bool := c.isAlphanum || c == '_' || c == '-'

/-- A **position** in a text: the rest of the text, and where it begins. -/
structure Cursor where
  /-- What is left of the text. -/
  rest : List Char
  /-- The number of the line, from 0. -/
  line : Nat
  /-- The number of characters before it on its line. -/
  column : Nat
  /-- The number of characters before it. -/
  index : Nat
deriving Inhabited

namespace Cursor

/-- The beginning of a text. -/
def start (text : List Char) : Cursor := ⟨text, 0, 0, 0⟩

/-- The next character, if it is `c`. -/
def at? (s : Cursor) (c : Char) : Bool := s.rest.head? == some c

/-- Whether a character of a class comes after `n` others. -/
def charAfter (s : Cursor) (n : Nat) (p : Char → Bool) : Bool := s.rest[n]?.any p

/-- Whether the text ends, or a space, tab or line break comes, after `n` characters. -/
def blankAfter (s : Cursor) (n : Nat) : Bool :=
  s.rest[n]?.all fun c => isSpacing c || isBreak c

/-- Whether the text or the line ends here. -/
def atLineEnd (s : Cursor) : Bool := s.rest.head?.all isBreak

/-- Past one character. -/
def skip (s : Cursor) : Cursor :=
  match s.rest with
  | [] => s
  | _ :: rest => ⟨rest, s.line, s.column + 1, s.index + 1⟩

/-- Past `n` characters. -/
def skipMany : Nat → Cursor → Cursor
  | 0, s => s
  | n + 1, s => skipMany n s.skip

/-- Past a line break; a carriage return and a line feed together are one. -/
def skipLine (s : Cursor) : Cursor :=
  match s.rest with
  | '\r' :: '\n' :: rest => ⟨rest, s.line + 1, 0, s.index + 2⟩
  | c :: rest => if isBreak c then ⟨rest, s.line + 1, 0, s.index + 1⟩ else s
  | [] => s

/-- What a line break stands for in a value, and the position past it: a line feed, or itself if it
is a line or paragraph separator. -/
def breakLine (s : Cursor) : List Char × Cursor :=
  match s.rest with
  | c :: _ =>
    if c == '\u2028' || c == '\u2029' then ([c], s.skipLine)
    else if isBreak c then (['\n'], s.skipLine) else ([], s)
  | [] => ([], s)

/-- The longest run of characters of a class, and the position past it. No line break may be of the
class. -/
def takeRun (p : Char → Bool) (s : Cursor) : List Char × Cursor :=
  let run := s.rest.takeWhile p
  (run, ⟨s.rest.dropWhile p, s.line, s.column + run.length, s.index + run.length⟩)

/-- Past a run of characters of a class. -/
def skipRun (p : Char → Bool) (s : Cursor) : Cursor := (s.takeRun p).2

/-- Past spaces and tabs. -/
def skipSpacing (s : Cursor) : Cursor := s.skipRun isSpacing

/-- The rest of the line. -/
def takeLine (s : Cursor) : List Char × Cursor := s.takeRun fun c => !isBreak c

/-- Past a comment, if one begins here. -/
def skipComment (s : Cursor) : Cursor :=
  if s.at? '#' then s.takeLine.2 else s

/-- The number that exactly `n` hexadecimal digits write. -/
def hex? (s : Cursor) (n : Nat) : Option Nat :=
  let digits := s.rest.take n
  if digits.length < n then none
  else digits.foldlM (fun k c => (hexValue? c).map (k * 16 + ·)) 0

/-- Whether three equal characters `c` stand alone at the start of the line. -/
def marker (s : Cursor) (c : Char) : Bool :=
  s.column == 0 && s.rest.take 3 == [c, c, c] && s.blankAfter 3

/-- Whether a marker between documents begins here. -/
def atDocumentMarker (s : Cursor) : Bool := s.marker '-' || s.marker '.'

end Cursor

end SiteGen.Yaml

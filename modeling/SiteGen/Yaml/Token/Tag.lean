import SiteGen.Yaml.Cursor
import SiteGen.Yaml.Token.Basic

/-!
# Anchors, tags and directives

* `Cursor.anchorName?` reads the name after `&` or `*`.
* `Cursor.tag?` reads a tag: a handle and a suffix, the suffix as bytes since it may be written with
  percent signs.
* `Cursor.directive?` reads a line that begins with a percent sign.
-/

namespace SiteGen.Yaml

/-- The bytes of a text. -/
def utf8 (text : List Char) : List UInt8 := (String.ofList text).toUTF8.toList

namespace Cursor

/-! ## Anchors -/

/-- Reads the **name of an anchor**, its sign being the next character. -/
def anchorName? (s : Cursor) : Option (String × Cursor) :=
  let (name, s) := s.skip.takeRun isNameChar
  if name.isEmpty then none
  else if s.blankAfter 0 || s.charAfter 0 ("?:,]\x7d%@\x60".toList.contains ·) then
    some (String.ofList name, s)
  else none

/-! ## Tags -/

/-- Whether a character may occur in a tag; `wide` admits those that end a tag in a collection. -/
def isTagChar (wide : Bool) (c : Char) : Bool :=
  isNameChar c || ";/?:@&=+$.%!~*'()".toList.contains c || (wide && ",[]".toList.contains c)

/-- The number of bytes of a character whose first byte is `b`. -/
def widthOf? (b : Nat) : Option Nat :=
  if b < 0x80 then some 1
  else if b / 0x20 == 0b110 then some 2
  else if b / 0x10 == 0b1110 then some 3
  else if b / 0x08 == 0b11110 then some 4
  else none

/-- A byte written with a percent sign. -/
def percentByte? (s : Cursor) : Option (Nat × Cursor) :=
  if s.at? '%' then (s.skip.hex? 2).map (·, s.skipMany 3) else none

/-- The `n` further bytes of a character, each written with a percent sign. -/
def percentTail? : Nat → Cursor → Option (List UInt8 × Cursor)
  | 0, s => some ([], s)
  | n + 1, s => do
    let (b, s) ← s.percentByte?
    if b / 0x40 == 0b10 then
      let (bytes, s) ← percentTail? n s
      some (UInt8.ofNat b :: bytes, s)
    else none

/-- A character written with percent signs. -/
def percentChar? (s : Cursor) : Option (List UInt8 × Cursor) := do
  let (b, s) ← s.percentByte?
  let width ← widthOf? b
  let (bytes, s) ← percentTail? (width - 1) s
  some (UInt8.ofNat b :: bytes, s)

/-- The characters of a tag from here on, as bytes. -/
def tagRest? (wide : Bool) : Nat → Cursor → Option (List UInt8 × Cursor)
  | 0, s => some ([], s)
  | n + 1, s =>
    match s.rest with
    | [] => some ([], s)
    | c :: _ =>
      if c == '%' then do
        let (bytes, s) ← s.percentChar?
        let (more, s) ← tagRest? wide n s
        some (bytes ++ more, s)
      else if isTagChar wide c then do
        let (more, s) ← tagRest? wide n s.skip
        some (utf8 [c] ++ more, s)
      else some ([], s)

/-- Reads the characters of a tag after `read`, which may be empty; together they are not. -/
def tagText? (wide : Bool) (read : List Char) (s : Cursor) : Option (List UInt8 × Cursor) := do
  let (bytes, s) ← s.tagRest? wide s.rest.length
  if read.isEmpty && bytes.isEmpty then none else some (utf8 (read.drop 1) ++ bytes, s)

/-- Reads a handle: `!`, or a name between two of them. A name that is not closed is a handle only
where a tag may follow. -/
def handle? (closed : Bool) (s : Cursor) : Option (List Char × Cursor) :=
  if !s.at? '!' then none
  else
    let (name, s) := s.skip.takeRun isNameChar
    if s.at? '!' then some ('!' :: name ++ ['!'], s.skip)
    else if closed && !name.isEmpty then none
    else some ('!' :: name, s)

/-- Reads a **tag**, its exclamation mark being the next character. -/
def tag? (inFlow : Bool) (s : Cursor) : Option (Token × Cursor) := do
  let (token, s) ←
    if s.charAfter 1 (· == '<') then do
      let (bytes, s) ← (s.skipMany 2).tagText? true []
      if s.at? '>' then some (Token.tag "" bytes, s.skip) else none
    else do
      let (name, s) ← s.handle? false
      if 2 ≤ name.length && name.getLast? == some '!' then do
        let (bytes, s) ← s.tagText? false []
        some (Token.tag (String.ofList name) bytes, s)
      else do
        let (bytes, s) ← s.tagText? false name
        some (if bytes.isEmpty then Token.tag "" (utf8 ['!']) else Token.tag "!" bytes, s)
  if s.blankAfter 0 || (inFlow && s.at? ',') then some (token, s) else none

/-! ## Directives -/

/-- Reads a number of at most nine digits. -/
def versionNumber? (s : Cursor) : Option (Nat × Cursor) :=
  let (digits, s) := s.takeRun (·.isDigit)
  if digits.isEmpty || 9 < digits.length then none
  else some (digits.foldl (fun n c => n * 10 + (c.toNat - '0'.toNat)) 0, s)

/-- Reads a **directive**, its percent sign being the next character. -/
def directive? (s : Cursor) : Option (Token × Cursor) := do
  let (name, s) := s.skip.takeRun isNameChar
  if name.isEmpty || !s.blankAfter 0 then none
  let (token, s) ←
    if name == "YAML".toList then do
      let (major, s) ← s.skipSpacing.versionNumber?
      if !s.at? '.' then none
      let (minor, s) ← s.skip.versionNumber?
      some (Token.version major minor, s)
    else if name == "TAG".toList then do
      let (handle, s) ← s.skipSpacing.handle? true
      if !s.charAfter 0 isSpacing then none
      let (bytes, s) ← s.skipSpacing.tagText? true []
      if !s.blankAfter 0 then none
      some (Token.handle (String.ofList handle) bytes, s)
    else none
  let s := s.skipSpacing.skipComment
  if s.atLineEnd then some (token, s.skipLine) else none

end Cursor

end SiteGen.Yaml

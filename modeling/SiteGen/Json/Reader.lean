import SiteGen.Decimal.Reader
import SiteGen.Json.Basic
import SiteGen.Text.HexDigit

/-!
# Reading JSON

A document is one value with blanks around it, nested less than 128 deep.  A malformed document is
refused with the reason and the place.

* `Json.Reason.text` is the wording of the reasons.
* `Json.SyntaxError.message` adds the line and the column, counted in bytes.
* `Json.parse` reads a document.

Numbers that are not whole, or too large, are read in two steps, as a whole number of 64 bits and a
power of ten, so that the result can be off the nearest float by its last digits.
-/

namespace SiteGen.Json

/-- Why a document is refused. -/
inductive Reason where
  | eofInList
  | eofInObject
  | eofInString
  | eofInValue
  | expectedColon
  | expectedListEnd
  | expectedObjectEnd
  | expectedWord
  | expectedValue
  | invalidEscape
  | invalidNumber
  | numberOutOfRange
  | controlCharacter
  | keyNotString
  | loneSurrogate
  | trailingComma
  | trailingCharacters
  | unexpectedEscapeEnd
  | tooDeep
deriving DecidableEq, Repr

/-- The wording of a reason. -/
def Reason.text : Reason → String
  | .eofInList => "EOF while parsing a list"
  | .eofInObject => "EOF while parsing an object"
  | .eofInString => "EOF while parsing a string"
  | .eofInValue => "EOF while parsing a value"
  | .expectedColon => "expected \x60:\x60"
  | .expectedListEnd => "expected \x60,\x60 or \x60]\x60"
  | .expectedObjectEnd => "expected \x60,\x60 or \x60\x7d\x60"
  | .expectedWord => "expected ident"
  | .expectedValue => "expected value"
  | .invalidEscape => "invalid escape"
  | .invalidNumber => "invalid number"
  | .numberOutOfRange => "number out of range"
  | .controlCharacter => "control character (\\u0000-\\u001F) found while parsing a string"
  | .keyNotString => "key must be a string"
  | .loneSurrogate => "lone leading surrogate in hex escape"
  | .trailingComma => "trailing comma"
  | .trailingCharacters => "trailing characters"
  | .unexpectedEscapeEnd => "unexpected end of hex escape"
  | .tooDeep => "recursion limit exceeded"

/-- A refused document: the reason and the place. -/
structure SyntaxError where
  /-- The reason. -/
  reason : Reason
  /-- The line, from one. -/
  line : Nat
  /-- The column in bytes, from one; zero is the line feed before the line. -/
  column : Nat
deriving DecidableEq, Repr

/-- The text of a refusal. -/
def SyntaxError.message (e : SyntaxError) : String :=
  e.reason.text ++ " at line " ++ toString e.line ++ " column " ++ toString e.column

/-- What is left to read, and how many bytes have been read. -/
structure Input where
  /-- The characters left. -/
  rest : List Char
  /-- The bytes before them. -/
  offset : Nat
deriving DecidableEq, Repr

/-- A reason with the offset at which it arose. -/
structure Fault where
  /-- The reason. -/
  reason : Reason
  /-- The offset in bytes. -/
  offset : Nat
deriving DecidableEq, Repr

namespace Input

/-- The input after the character `c`, where `rest` is left. -/
def after (input : Input) (c : Char) (rest : List Char) : Input :=
  ⟨rest, input.offset + c.utf8Size⟩

/-- Refuses the input at the place reached. -/
def failHere {α : Type} (input : Input) (reason : Reason) : Except Fault α :=
  .error ⟨reason, input.offset⟩

/-- Refuses the input at its next byte, which is shown as read. -/
def failNext {α : Type} (input : Input) (reason : Reason) : Except Fault α :=
  .error ⟨reason, input.offset + if input.rest.isEmpty then 0 else 1⟩

/-- Refuses the input after its next byte. -/
def failAfter {α : Type} (input : Input) (reason : Reason) : Except Fault α :=
  .error ⟨reason, input.offset + 1⟩

end Input

/-- Whether the character may stand between the parts of a document. -/
def isGap (c : Char) : Bool := c == ' ' || c == '\n' || c == '\t' || c == '\r'

/-- Leaves out the blanks at the beginning. -/
def skipGap (input : Input) : Input :=
  let gap := input.rest.takeWhile isGap
  ⟨input.rest.drop gap.length, input.offset + gap.length⟩

/-! ## Texts -/

/-- Four hexadecimal digits. -/
def readUnit (input : Input) : Except Fault (Nat × Input) :=
  match input.rest with
  | a :: b :: c :: d :: rest =>
    match hexValue? a, hexValue? b, hexValue? c, hexValue? d with
    | some a, some b, some c, some d =>
      .ok (((a * 16 + b) * 16 + c) * 16 + d, ⟨rest, input.offset + 4⟩)
    | _, _, _, _ => .error ⟨.invalidEscape, input.offset + 4⟩
  | rest =>
    let left := (String.ofList rest).utf8ByteSize
    if left < 4 then .error ⟨.eofInString, input.offset + left⟩
    else .error ⟨.invalidEscape, input.offset + 4⟩

/-- The second half of a pair of surrogates, with the escape that introduces it. -/
def readLowSurrogate (high : Nat) (input : Input) : Except Fault (Char × Input) :=
  match input.rest with
  | [] => input.failHere .eofInString
  | c :: rest =>
    if c ≠ '\\' then input.failAfter .unexpectedEscapeEnd
    else
      let input := input.after c rest
      match input.rest with
      | [] => input.failHere .eofInString
      | c :: rest =>
        if c ≠ 'u' then input.failAfter .unexpectedEscapeEnd
        else do
          let (low, input) ← readUnit (input.after c rest)
          if low < 0xDC00 ∨ 0xDFFF < low then input.failHere .loneSurrogate
          else .ok (Char.ofNat ((high - 0xD800) * 1024 + (low - 0xDC00) + 0x10000), input)

/-- The character that an escape stands for, after its backslash. -/
def readEscape (input : Input) : Except Fault (Char × Input) :=
  match input.rest with
  | [] => input.failHere .eofInString
  | c :: rest =>
    let next := input.after c rest
    if c = '"' ∨ c = '\\' ∨ c = '/' then .ok (c, next)
    else if c = 'b' then .ok ('\x08', next)
    else if c = 'f' then .ok ('\x0c', next)
    else if c = 'n' then .ok ('\n', next)
    else if c = 'r' then .ok ('\r', next)
    else if c = 't' then .ok ('\t', next)
    else if c = 'u' then do
      let (unit, input) ← readUnit next
      if 0xDC00 ≤ unit ∧ unit ≤ 0xDFFF then input.failHere .loneSurrogate
      else if 0xD800 ≤ unit ∧ unit ≤ 0xDBFF then readLowSurrogate unit input
      else .ok (Char.ofNat unit, input)
    else input.failAfter .invalidEscape

/-- The characters of a text up to the closing quote, the latest first. -/
def readChars : Nat → List Char → Input → Except Fault (List Char × Input)
  | 0, _, input => input.failHere .eofInString
  | fuel + 1, acc, input =>
    match input.rest with
    | [] => input.failHere .eofInString
    | c :: rest =>
      if c = '"' then .ok (acc, input.after c rest)
      else if c = '\\' then do
        let (d, input) ← readEscape (input.after c rest)
        readChars fuel (d :: acc) input
      else if c.toNat < 0x20 then input.failAfter .controlCharacter
      else readChars fuel (c :: acc) (input.after c rest)

/-- A text after its opening quote. -/
def readString (input : Input) : Except Fault (String × Input) := do
  let (acc, input) ← readChars (input.rest.length + 1) [] input
  return (String.ofList acc.reverse, input)

/-! ## Numbers -/

/-- The largest whole number of 64 bits. -/
def maxWord : Nat := 0xFFFFFFFFFFFFFFFF

/-- The largest exponent that is read as such. -/
def maxExponent : Nat := 0x7FFFFFFF

/-- The digits at the beginning. -/
def takeDigits (input : Input) : List Char × Input :=
  let ds := input.rest.takeWhile Char.isDigit
  (ds, ⟨input.rest.drop ds.length, input.offset + ds.length⟩)

/-- A power of ten as a float. -/
def powerOfTen (n : Nat) : Float := Binary64.ofDecimal false 1 n

/-- Divides by powers of ten of at most 308. -/
def scaleDown : Nat → Float → Nat → Float
  | 0, x, _ => x
  | fuel + 1, x, n =>
    if n ≤ 308 then x / powerOfTen n
    else if x == 0.0 then x
    else scaleDown fuel (x / powerOfTen 308) (n - 308)

/-- The float of a whole number times a power of ten, or `none` if it is too large.  Both factors
are rounded, and then their product or quotient. -/
def assemble? (significand : Nat) (exponent : Int) : Option Float :=
  let x := Binary64.ofDecimal false significand 0
  if 0 ≤ exponent then
    if exponent ≤ 308 then
      let y := x * powerOfTen exponent.toNat
      if Decimal.isFinite y then some y else none
    else if x == 0.0 then some x
    else none
  else some (scaleDown (significand.log2 + 5) x exponent.natAbs)

/-- A float with its sign. -/
def signed (negative : Bool) (x : Float) : JsonNumber := .float (if negative then -x else x)

/-- The float of the parts that have been read. -/
def finishFloat (negative : Bool) (significand : Nat) (exponent : Int) (input : Input) :
    Except Fault (JsonNumber × Input) :=
  match assemble? significand exponent with
  | some x => .ok (signed negative x, input)
  | none => input.failHere .numberOutOfRange

/-- The digits that keep a number within a bound, and its value. -/
def takeBounded (bound : Nat) : Nat → List Char → Nat × Nat
  | n, c :: rest =>
    if c.isDigit ∧ n * 10 + (c.toNat - 48) ≤ bound then
      let (value, count) := takeBounded bound (n * 10 + (c.toNat - 48)) rest
      (value, count + 1)
    else (n, 0)
  | n, [] => (n, 0)

/-- An exponent after its letter. -/
def readExponent (negative : Bool) (significand : Nat) (start : Int) (input : Input) :
    Except Fault (JsonNumber × Input) :=
  let (down, input) := match input.rest with
    | '+' :: rest => (false, input.after '+' rest)
    | '-' :: rest => (true, input.after '-' rest)
    | _ => (false, input)
  match input.rest with
  | [] => input.failHere .eofInValue
  | c :: _ =>
    if !c.isDigit then input.failAfter .invalidNumber
    else
      let (value, count) := takeBounded maxExponent 0 input.rest
      let input : Input := ⟨input.rest.drop count, input.offset + count⟩
      match input.rest with
      | d :: rest =>
        if d.isDigit then
          if significand ≠ 0 ∧ !down then (input.after d rest).failHere .numberOutOfRange
          else .ok (signed negative 0.0, (takeDigits input).2)
        else finishFloat negative significand (if down then start - value else start + value) input
      | [] => finishFloat negative significand (if down then start - value else start + value) input

/-- The rest of a number whose digits have been read. -/
def readTail (negative : Bool) (significand : Nat) (exponent : Int) (input : Input) :
    Except Fault (JsonNumber × Input) :=
  match input.rest with
  | c :: rest =>
    if c = 'e' ∨ c = 'E' then readExponent negative significand exponent (input.after c rest)
    else finishFloat negative significand exponent input
  | [] => finishFloat negative significand exponent input

/-- The digits after the point.  Digits that no longer fit into 64 bits are left out. -/
def readFraction (negative : Bool) (significand : Nat) (exponent : Int) (input : Input) :
    Except Fault (JsonNumber × Input) :=
  let (value, count) := takeBounded maxWord significand input.rest
  let input : Input := ⟨input.rest.drop count, input.offset + count⟩
  let exponent := exponent - count
  match input.rest with
  | c :: _ =>
    if c.isDigit then readTail negative value exponent (takeDigits input).2
    else if count = 0 then input.failNext .invalidNumber
    else readTail negative value exponent input
  | [] => if count = 0 then input.failHere .eofInValue else readTail negative value exponent input

/-- A number whose first digits have been read. -/
def readAfterDigits (negative : Bool) (significand : Nat) (input : Input) :
    Except Fault (JsonNumber × Input) :=
  match input.rest with
  | c :: rest =>
    if c = '.' then readFraction negative significand 0 (input.after c rest)
    else if c = 'e' ∨ c = 'E' then readExponent negative significand 0 (input.after c rest)
    else .ok (whole, input)
  | [] => .ok (whole, input)
where
  /-- The whole number; zero with a sign, and what is below the 64 bits, is a float. -/
  whole : JsonNumber :=
    if !negative then .integer significand
    else if significand = 0 ∨ 0x8000000000000000 < significand then
      signed true (Binary64.ofDecimal false significand 0)
    else .integer (-(significand : Int))

/-- A whole number whose digits no longer fit into 64 bits. -/
def readLong (negative : Bool) (significand : Nat) (input : Input) :
    Except Fault (JsonNumber × Input) :=
  let (more, input) := takeDigits input
  match input.rest with
  | c :: rest =>
    if c = '.' then readFraction negative significand more.length (input.after c rest)
    else readTail negative significand more.length input
  | [] => readTail negative significand more.length input

/-- A number after its sign. -/
def readNumber (negative : Bool) (input : Input) : Except Fault (JsonNumber × Input) :=
  match input.rest with
  | [] => input.failHere .eofInValue
  | c :: rest =>
    if c = '0' then
      let input := input.after c rest
      match input.rest with
      | d :: _ =>
        if d.isDigit then input.failNext .invalidNumber else readAfterDigits negative 0 input
      | [] => readAfterDigits negative 0 input
    else if c.isDigit then
      let (value, count) := takeBounded maxWord 0 input.rest
      let input : Input := ⟨input.rest.drop count, input.offset + count⟩
      match input.rest with
      | d :: _ =>
        if d.isDigit then readLong negative value input else readAfterDigits negative value input
      | [] => readAfterDigits negative value input
    else input.failAfter .invalidNumber

/-! ## Values -/

/-- The rest of a word, letter by letter. -/
def readWord (value : Json) : List Char → Input → Except Fault (Json × Input)
  | [], input => .ok (value, input)
  | letter :: letters, input =>
    match input.rest with
    | [] => input.failHere .eofInValue
    | c :: rest =>
      if c = letter then readWord value letters (input.after c rest)
      else input.failAfter .expectedWord

/-- The colon between a key and its value. -/
def readColon (input : Input) : Except Fault (Unit × Input) :=
  let input := skipGap input
  match input.rest with
  | [] => input.failNext .eofInObject
  | c :: rest => if c = ':' then .ok ((), input.after c rest) else input.failNext .expectedColon

/-- How deep values may be nested. -/
def depthLimit : Nat := 128

mutual

/-- A value, which may hold values nested less than `depth` deep. -/
def readValue : Nat → Nat → Input → Except Fault (Json × Input)
  | 0, _, input => input.failNext .expectedValue
  | fuel + 1, depth, input =>
    let input := skipGap input
    match input.rest with
    | [] => input.failNext .eofInValue
    | c :: rest =>
      let next := input.after c rest
      if c = 'n' then readWord .null ['u', 'l', 'l'] next
      else if c = 't' then readWord (.bool true) ['r', 'u', 'e'] next
      else if c = 'f' then readWord (.bool false) ['a', 'l', 's', 'e'] next
      else if c = '-' then (readNumber true next).map fun (n, input) => (.number n, input)
      else if c.isDigit then (readNumber false input).map fun (n, input) => (.number n, input)
      else if c = '"' then (readString next).map fun (s, input) => (.string s, input)
      else if c = '[' then
        if depth ≤ 1 then input.failNext .tooDeep
        else (readItems fuel (depth - 1) true [] next).map fun (items, input) =>
          (.array items, input)
      else if c = '\x7b' then
        if depth ≤ 1 then input.failNext .tooDeep
        else (readMembers fuel (depth - 1) true [] next).map fun (members, input) =>
          (.object members, input)
      else input.failNext .expectedValue

/-- The items of an array up to its end, after the items `acc`, the latest first. -/
def readItems : Nat → Nat → Bool → List Json → Input → Except Fault (List Json × Input)
  | 0, _, _, _, input => input.failNext .expectedValue
  | fuel + 1, depth, first, acc, input =>
    let input := skipGap input
    match input.rest with
    | [] => input.failNext .eofInList
    | c :: rest =>
      if c = ']' then .ok (acc.reverse, input.after c rest)
      else if first then do
        let (item, input) ← readValue fuel depth input
        readItems fuel depth false (item :: acc) input
      else if c = ',' then
        let input := skipGap (input.after c rest)
        match input.rest with
        | [] => input.failNext .eofInValue
        | d :: _ =>
          if d = ']' then input.failNext .trailingComma
          else do
            let (item, input) ← readValue fuel depth input
            readItems fuel depth false (item :: acc) input
      else input.failNext .expectedListEnd

/-- The members of an object up to its end, added to the members `acc`. -/
def readMembers : Nat → Nat → Bool → List (String × Json) → Input →
    Except Fault (List (String × Json) × Input)
  | 0, _, _, _, input => input.failNext .expectedValue
  | fuel + 1, depth, first, acc, input =>
    let input := skipGap input
    match input.rest with
    | [] => input.failNext .eofInObject
    | c :: rest =>
      if c = '\x7d' then .ok (acc, input.after c rest)
      else if first then
        if c = '"' then readMember fuel depth acc (input.after c rest)
        else input.failNext .keyNotString
      else if c = ',' then
        let input := skipGap (input.after c rest)
        match input.rest with
        | [] => input.failNext .eofInValue
        | d :: rest =>
          if d = '"' then readMember fuel depth acc (input.after d rest)
          else if d = '\x7d' then input.failNext .trailingComma
          else input.failNext .keyNotString
      else input.failNext .expectedObjectEnd

/-- A member after the opening quote of its key, and the members after it. -/
def readMember : Nat → Nat → List (String × Json) → Input →
    Except Fault (List (String × Json) × Input)
  | 0, _, _, input => input.failNext .expectedValue
  | fuel + 1, depth, acc, input => do
    let (key, input) ← readString input
    let ((), input) ← readColon input
    let (value, input) ← readValue fuel depth input
    readMembers fuel depth false (insertMember key value acc) input

end

/-- A whole document. -/
def readDocument (text : List Char) : Except Fault Json := do
  let (value, input) ← readValue (3 * text.length + 3) depthLimit ⟨text, 0⟩
  let input := skipGap input
  if input.rest.isEmpty then .ok value else input.failNext .trailingCharacters

/-- The line and the column after the first `offset` bytes of a text. -/
def position (text : String) (offset : Nat) : Nat × Nat :=
  let step := fun (place : Nat × Nat) (byte : UInt8) =>
    if byte = 10 then (place.1 + 1, 0) else (place.1, place.2 + 1)
  (text.toUTF8.toList.take offset).foldl step (1, 0)

/-- Reads a **document**. -/
def parse (text : String) : Except SyntaxError Json :=
  match readDocument text.toList with
  | .ok value => .ok value
  | .error fault =>
    let (line, column) := position text fault.offset
    .error ⟨fault.reason, line, column⟩

end SiteGen.Json

import SiteGen.Regex.Syntax
import SiteGen.Text.Blank
import SiteGen.Text.Category
import SiteGen.Text.HexDigit
import SiteGen.Text.Property

/-!
# Reading regular expressions

Main function: `Pattern.read?` reads a written regular expression, and gives `none` for a text that
is not one.  Groups are read with an explicit stack of the groups that are open, brackets with a
stack of their own.
-/

namespace SiteGen.Pattern

/-! ## Blanks and comments -/

/-- Leaves out a comment up to the end of its line. -/
def dropComment (text : List Char) : List Char := (text.dropWhile (· ≠ '\n')).drop 1

/-- Leaves out blanks and comments at the beginning. -/
def dropGaps : Nat → List Char → List Char
  | 0, text => text
  | fuel + 1, text =>
    match text with
    | [] => []
    | c :: rest =>
      if isBlank c then dropGaps fuel rest
      else if c = '#' then dropGaps fuel (dropComment rest)
      else text

/-- Leaves out blanks and comments at the beginning, if they are to be ignored. -/
def skip (ignore : Bool) (text : List Char) : List Char :=
  if ignore then dropGaps text.length text else text

/-- The next character but one, blanks and comments between left out if they are to be ignored. -/
def peekSecond (ignore : Bool) (text : List Char) : Option Char := (skip ignore (text.drop 1)).head?

/-! ## Escapes -/

/-- A number of hexadecimal digits. -/
def readHexDigits (ignore : Bool) : Nat → Nat → List Char → Option (Nat × List Char)
  | 0, n, text => some (n, text)
  | count + 1, n, text =>
    match text with
    | [] => none
    | c :: rest => do
      let digit ← hexValue? c
      readHexDigits ignore count (n * 16 + digit) (skip ignore rest)

/-- Hexadecimal digits up to a closing brace. -/
def readHexBraced (ignore : Bool) : Nat → Option Nat → List Char → Option (Nat × List Char)
  | 0, _, _ => none
  | fuel + 1, n, text =>
    match text with
    | [] => none
    | c :: rest =>
      let rest := skip ignore rest
      if c = '\x7d' then n.map fun n => (n, rest)
      else do
        let digit ← hexValue? c
        readHexBraced ignore fuel (some (n.getD 0 * 16 + digit)) rest

/-- A character given by its number, after the letter that says how many digits it has. -/
def readHex (ignore : Bool) (digits : Nat) (text : List Char) : Option (Written × List Char) :=
  match skip ignore text with
  | [] => none
  | c :: rest =>
    if c = '\x7b' then do
      let (n, rest) ← readHexBraced ignore (rest.length + 1) none (skip ignore rest)
      return (⟨← charOf? n, false⟩, rest)
    else do
      let (n, rest) ← readHexDigits ignore digits 0 (c :: rest)
      return (⟨← charOf? n, digits == 2⟩, rest)

/-- The part of a list before the first place where a pattern stands, and the part after it. -/
def cutAt (pattern : List Char) : List Char → Option (List Char × List Char)
  | [] => none
  | c :: rest =>
    if pattern.isPrefixOf (c :: rest) then some ([], (c :: rest).drop pattern.length)
    else (cutAt pattern rest).map fun (before, after) => (c :: before, after)

/-- The name of a property, and of its value if there is one. -/
def propertyName (name : List Char) : PropertyName :=
  match cutAt ['!', '='] name with
  | some (a, b) => .value (String.ofList a) (String.ofList b)
  | none =>
    match cutAt [':'] name with
    | some (a, b) => .value (String.ofList a) (String.ofList b)
    | none =>
      match cutAt ['='] name with
      | some (a, b) => .value (String.ofList a) (String.ofList b)
      | none => .single (String.ofList name)

/-- The characters up to a closing brace. -/
def readBraced (ignore : Bool) : Nat → List Char → List Char → Option (List Char × List Char)
  | 0, _, _ => none
  | fuel + 1, acc, text =>
    match text with
    | [] => none
    | c :: rest =>
      if c = '\x7d' then some (acc.reverse, rest)
      else readBraced ignore fuel (c :: acc) (skip ignore rest)

/-- The name of a property after its letter. -/
def readProperty (ignore : Bool) (text : List Char) : Option (PropertyName × List Char) :=
  match skip ignore text with
  | [] => none
  | c :: rest =>
    if c = '\x7b' then
      (readBraced ignore (rest.length + 1) [] (skip ignore rest)).map fun (name, rest) =>
        (propertyName name, rest)
    else if c = '\\' then none
    else some (.single (String.singleton c), skip ignore rest)

/-- Whether a character may stand in the name of a word edge. -/
def isEdgeChar (c : Char) : Bool := c.isAlpha || c == '-'

/-- The characters of the name of a word edge. -/
def readEdgeName (ignore : Bool) : Nat → List Char → List Char → List Char × List Char
  | 0, acc, text => (acc.reverse, text)
  | fuel + 1, acc, text =>
    match text with
    | [] => (acc.reverse, [])
    | c :: rest =>
      if isEdgeChar c then readEdgeName ignore fuel (c :: acc) (skip ignore rest)
      else (acc.reverse, text)

/-- The word edge after `\b`: a name in braces, or a boundary if no name follows. -/
def readEdge (ignore : Bool) (text : List Char) : Option (WordEdge × List Char) :=
  match text with
  | '\x7b' :: rest =>
    match skip ignore rest with
    | [] => none
    | c :: inner =>
      if !isEdgeChar c then some (.boundary, text)
      else
        let (name, after) := readEdgeName ignore (inner.length + 1) [] (c :: inner)
        match after with
        | '\x7d' :: after =>
          match String.ofList name with
          | "start" => some (.start, after)
          | "end" => some (.stop, after)
          | "start-half" => some (.startHalf, after)
          | "end-half" => some (.stopHalf, after)
          | _ => none
        | _ => none
  | _ => some (.boundary, text)

/-- Whether a character without a meaning of its own may stand after a backslash. -/
def isEscapable (c : Char) : Bool :=
  c.toNat < 0x80 && !c.isAlphanum && c != '<' && c != '>'

/-- What stands after a backslash. -/
def readEscape (ignore : Bool) (text : List Char) : Option (Pattern × List Char) :=
  match text with
  | [] => none
  | c :: rest =>
    let literal := fun (d : Char) => some (Pattern.literal ⟨d, false⟩, rest)
    let hex := fun digits => (readHex ignore digits rest).map fun (c, rest) => (.literal c, rest)
    let anchor := fun (test : WrittenAnchor) => some (Pattern.anchor test, rest)
    let short := fun (kind : Shorthand) negated => some (Pattern.shorthand kind negated, rest)
    let prop := fun negated => (readProperty ignore rest).map fun (name, rest) =>
      (Pattern.property name negated, rest)
    match c with
    | 'x' => hex 2
    | 'u' => hex 4
    | 'U' => hex 8
    | 'p' => prop false
    | 'P' => prop true
    | 'd' => short .digit false
    | 'D' => short .digit true
    | 's' => short .blank false
    | 'S' => short .blank true
    | 'w' => short .word false
    | 'W' => short .word true
    | 'a' => literal '\x07'
    | 'f' => literal '\x0c'
    | 't' => literal '\t'
    | 'n' => literal '\n'
    | 'r' => literal '\r'
    | 'v' => literal '\x0b'
    | 'A' => anchor .textStart
    | 'z' => anchor .textEnd
    | 'b' => (readEdge ignore rest).map fun (edge, rest) => (.anchor (.word edge), rest)
    | 'B' => anchor (.word .inside)
    | '<' => anchor (.word .start)
    | '>' => anchor (.word .stop)
    | c => if Regex.isMeta c || isEscapable c then literal c else none

/-! ## Brackets -/

/-- The classes of ASCII characters that have a name. -/
def asciiClass? (name : String) : Option CharSet :=
  match name with
  | "alnum" => some ⟨[(48, 57), (65, 90), (97, 122)]⟩
  | "alpha" => some ⟨[(65, 90), (97, 122)]⟩
  | "ascii" => some ⟨[(0, 127)]⟩
  | "blank" => some ⟨[(9, 9), (32, 32)]⟩
  | "cntrl" => some ⟨[(0, 31), (127, 127)]⟩
  | "digit" => some ⟨[(48, 57)]⟩
  | "graph" => some ⟨[(33, 126)]⟩
  | "lower" => some ⟨[(97, 122)]⟩
  | "print" => some ⟨[(32, 126)]⟩
  | "punct" => some ⟨[(33, 47), (58, 64), (91, 96), (123, 126)]⟩
  | "space" => some ⟨[(9, 13), (32, 32)]⟩
  | "upper" => some ⟨[(65, 90)]⟩
  | "word" => some ⟨[(48, 57), (65, 90), (95, 95), (97, 122)]⟩
  | "xdigit" => some ⟨[(48, 57), (65, 70), (97, 102)]⟩
  | _ => none

/-- A class of ASCII characters by its name between `[:` and `:]`. -/
def readAsciiClass? (text : List Char) : Option (ClassItem × List Char) :=
  match text with
  | '[' :: ':' :: rest =>
    let (negated, rest) := match rest with
      | '^' :: rest => (true, rest)
      | rest => (false, rest)
    let name := rest.takeWhile (· ≠ ':')
    match rest.dropWhile (· ≠ ':') with
    | ':' :: ']' :: rest => (asciiClass? (String.ofList name)).map fun s => (.named s negated, rest)
    | _ => none
  | _ => none

/-- One member of a class, before it is known whether it begins a range. -/
def readClassMember (ignore : Bool) (text : List Char) : Option (Pattern × List Char) :=
  match text with
  | [] => none
  | '\\' :: rest => readEscape ignore rest
  | c :: rest => some (.literal ⟨c, false⟩, rest)

/-- A member of a class as a part of its contents. -/
def classItem? : Pattern → Option ClassItem
  | .literal c => some (.single c)
  | .shorthand kind negated => some (.shorthand kind negated)
  | .property name negated => some (.property name negated)
  | _ => none

/-- A member of a class, or a range of them. -/
def readClassRange (ignore : Bool) (text : List Char) : Option (ClassItem × List Char) := do
  let (first, rest) ← readClassMember ignore text
  match skip ignore rest with
  | [] => none
  | c :: after =>
    let second := peekSecond ignore (c :: after)
    if c ≠ '-' ∨ second = some ']' ∨ second = some '-' then
      (classItem? first).map fun item => (item, c :: after)
    else do
      let after := skip ignore after
      let (last, rest) ← readClassMember ignore after
      match first, last with
      | .literal lo, .literal hi =>
        if lo.char ≤ hi.char then some (.range lo hi, rest) else none
      | _, _ => none

/-- Brackets, or an operator between sets, whose end has not been read. -/
inductive OpenClass where
  /-- Brackets: the contents before them, the latest first, and whether they are negated. -/
  | bracket (before : List ClassItem) (negated : Bool)
  /-- An operator and the set on its left. -/
  | operator (operator : SetOperator) (left : ClassItem)

/-- The contents as one, the latest given first. -/
def classOf : List ClassItem → ClassItem
  | [] => .empty
  | [item] => item
  | items => .union items.reverse

/-- The set `right`, combined with the set before an operator if one has been read. -/
def combine (right : ClassItem) : List OpenClass → ClassItem × List OpenClass
  | .operator operator left :: stack => (.combined operator left right, stack)
  | stack => (right, stack)

/-- Dashes at the beginning of a class, as many as there are. -/
def readDashes (ignore : Bool) : Nat → List ClassItem → List Char → List ClassItem × List Char
  | 0, items, text => (items, text)
  | fuel + 1, items, text =>
    match text with
    | '-' :: rest => readDashes ignore fuel (.single ⟨'-', false⟩ :: items) (skip ignore rest)
    | text => (items, text)

/-- The opening of brackets: whether they are negated, the first contents and the rest. -/
def readClassOpen (ignore : Bool) (text : List Char) :
    Option (Bool × List ClassItem × List Char) :=
  let text := skip ignore (text.drop 1)
  let (negated, text) := match text with
    | '^' :: rest => (true, skip ignore rest)
    | text => (false, text)
  let (items, text) := readDashes ignore text.length [] text
  match text with
  | [] => none
  | c :: rest =>
    if items.isEmpty && c == ']' then
      let rest := skip ignore rest
      if rest.isEmpty then none else some (negated, [.single ⟨']', false⟩], rest)
    else some (negated, items, text)

/-- An operator between sets at the beginning. -/
def setOperator? : List Char → Option (SetOperator × List Char)
  | '&' :: '&' :: rest => some (.intersection, rest)
  | '-' :: '-' :: rest => some (.difference, rest)
  | '~' :: '~' :: rest => some (.symmetricDifference, rest)
  | _ => none

/-- A class in brackets: the contents `items` of the innermost brackets, the latest first, and the
stack of what is open. -/
def readClassFrom (ignore : Bool) :
    Nat → List ClassItem → List OpenClass → List Char → Option (Pattern × List Char)
  | 0, _, _, _ => none
  | fuel + 1, items, stack, text =>
    match skip ignore text with
    | [] => none
    | c :: rest =>
      if c = '[' then
        match if stack.isEmpty then none else readAsciiClass? (c :: rest) with
        | some (item, rest) => readClassFrom ignore fuel (item :: items) stack rest
        | none => do
          let (negated, inner, rest) ← readClassOpen ignore (c :: rest)
          readClassFrom ignore fuel inner (.bracket items negated :: stack) rest
      else if c = ']' then
        match combine (classOf items) stack with
        | (item, .bracket before negated :: stack) =>
          if stack.isEmpty then some (.bracketed item negated, rest)
          else readClassFrom ignore fuel (.bracketed item negated :: before) stack rest
        | _ => none
      else
        match setOperator? (c :: rest) with
        | some (operator, rest) =>
          let (left, stack) := combine (classOf items) stack
          readClassFrom ignore fuel [] (.operator operator left :: stack) rest
        | none => do
          let (item, rest) ← readClassRange ignore (c :: rest)
          readClassFrom ignore fuel (item :: items) stack rest

/-- A class in brackets. -/
def readClass (ignore : Bool) (text : List Char) : Option (Pattern × List Char) :=
  readClassFrom ignore (2 * text.length + 1) [] [] text

/-! ## Repetitions -/

/-- The largest count of a repetition. -/
def maxCount : Nat := 0xFFFFFFFF

/-- The digits at the beginning, blanks and comments between left out if they are to be ignored. -/
def takeCountDigits (ignore : Bool) : Nat → List Char → List Char → List Char × List Char
  | 0, acc, text => (acc.reverse, text)
  | fuel + 1, acc, text =>
    match text with
    | [] => (acc.reverse, [])
    | c :: rest =>
      if c.isDigit then takeCountDigits ignore fuel (c :: acc) (skip ignore rest)
      else (acc.reverse, text)

/-- A count with blanks around it; `none` if there are no digits or it is too large. -/
def readCount (ignore : Bool) (text : List Char) : Option Nat × List Char :=
  let text := text.dropWhile isBlank
  let (ds, rest) := takeCountDigits ignore (text.length + 1) [] text
  let n := ds.foldl (fun n c => n * 10 + (c.toNat - 48)) 0
  let rest := skip ignore (rest.dropWhile isBlank)
  (if ds.isEmpty || maxCount < n then none else some n, rest)

/-- The bounds of a counted repetition after its opening brace, and what follows the closing one. -/
def readBounds (ignore : Bool) (text : List Char) : Option ((Nat × Option Nat) × List Char) :=
  let (first, rest) := readCount ignore (skip ignore text)
  match rest with
  | ',' :: rest =>
    match skip ignore rest with
    | [] => none
    | '\x7d' :: rest => first.map fun lo => ((lo, none), rest)
    | rest => do
      let lo ← first
      let (second, rest) := readCount ignore rest
      let hi ← second
      match rest with
      | '\x7d' :: rest => if lo ≤ hi then some ((lo, some hi), rest) else none
      | _ => none
  | '\x7d' :: rest => first.map fun n => ((n, some n), rest)
  | _ => none

/-- Whether a question mark makes the repetition lazy. -/
def readLazy : List Char → Bool × List Char
  | '?' :: rest => (true, rest)
  | text => (false, text)

/-- The part that a repetition applies to, and the parts before it. -/
def repeatable? : List Pattern → Option (Pattern × List Pattern)
  | [] | .empty :: _ | .setFlags _ :: _ => none
  | part :: parts => some (part, parts)

/-! ## Groups -/

/-- The flag of a letter. -/
def flag? : Char → Option Flag
  | 'i' => some .caseless
  | 'm' => some .multiLine
  | 's' => some .dotAll
  | 'U' => some .swapGreed
  | 'u' => some .unicode
  | 'R' => some .crlf
  | 'x' => some .ignoreBlank
  | _ => none

/-- Flags up to a colon or a closing parenthesis, which is left: flags before a minus are set and
flags after it are cleared, and none may be given twice. -/
def readFlags (negated dangling : Bool) (flags : List (Flag × Bool)) :
    List Char → Option (List (Flag × Bool) × List Char)
  | [] => none
  | c :: rest =>
    if c = ':' ∨ c = ')' then if dangling then none else some (flags.reverse, c :: rest)
    else if c = '-' then if negated then none else readFlags true true flags rest
    else
      match flag? c with
      | none => none
      | some f =>
        if flags.any (·.1 == f) then none
        else readFlags negated false ((f, !negated) :: flags) rest

/-- Whether the flags say that blanks are to be ignored, if they say anything about it. -/
def ignoreBlank? (flags : List (Flag × Bool)) : Option Bool := flags.lookup .ignoreBlank

/-- Whether a character may begin the name of a group. -/
def isNameStart (c : Char) : Bool := c == '_' || Property.alphabetic.contains c

/-- Whether a character may stand in the name of a group. -/
def isNameChar (c : Char) : Bool :=
  isNameStart c || c == '.' || c == '[' || c == ']' || Category.decimalNumber.contains c ||
    Category.letterNumber.contains c || Category.otherNumber.contains c

/-- The name of a group up to its closing bracket. -/
def readName (text : List Char) : Option (List Char × List Char) :=
  let name := text.takeWhile (· ≠ '>')
  match name, text.dropWhile (· ≠ '>') with
  | first :: more, _ :: rest =>
    if isNameStart first && more.all isNameChar then some (name, rest) else none
  | _, _ => none

/-- A group whose end has not been read. -/
structure OpenGroup where
  /-- The parts before the group, the latest first. -/
  parts : List Pattern
  /-- The branches before those parts, the latest first. -/
  branches : List Pattern
  /-- Whether blanks were ignored before the group. -/
  ignore : Bool
  /-- The flags for the contents. -/
  flags : List (Flag × Bool)

/-- What an opening parenthesis begins. -/
inductive Opening where
  /-- Flags for what follows. -/
  | flags (flags : List (Flag × Bool))
  /-- A group with flags for its contents, and its name if it has one. -/
  | group (flags : List (Flag × Bool)) (name : Option (List Char))

/-- What follows an opening parenthesis. -/
def readOpening (ignore : Bool) (text : List Char) : Option (Opening × List Char) :=
  match skip ignore text with
  | '?' :: '=' :: _ | '?' :: '!' :: _ | '?' :: '<' :: '=' :: _ | '?' :: '<' :: '!' :: _ => none
  | '?' :: 'P' :: '<' :: rest | '?' :: '<' :: rest =>
    (readName rest).map fun (name, rest) => (.group [] (some name), rest)
  | '?' :: rest =>
    match readFlags false false [] rest with
    | some (flags, ':' :: rest) => some (.group flags none, rest)
    | some (flags, ')' :: rest) => if flags.isEmpty then none else some (.flags flags, rest)
    | _ => none
  | rest => some (.group [] none, rest)

/-- What has been read of an expression. -/
structure Progress where
  /-- The parts of the innermost branch, the latest first. -/
  parts : List Pattern
  /-- The branches before it, the latest first. -/
  branches : List Pattern
  /-- Whether blanks are ignored. -/
  ignore : Bool
  /-- The groups that are open, the innermost first. -/
  stack : List OpenGroup
  /-- The names of the groups. -/
  names : List (List Char)

namespace Progress

/-- The contents of the innermost group. -/
def body (p : Progress) : Pattern := ofBranches (ofParts p.parts :: p.branches)

/-- The progress after one more part. -/
def push (p : Progress) (part : Pattern) : Progress := { p with parts := part :: p.parts }

/-- The progress after a repetition of the last part, and the rest of the text. -/
def pushRepeat (p : Progress) (lo : Nat) (hi : Option Nat) (rest : List Char) :
    Option (Progress × List Char) := do
  let (part, parts) ← repeatable? p.parts
  let (lazy, rest) := readLazy rest
  return ({ p with parts := .repetition part lo hi (!lazy) :: parts }, rest)

/-- The progress after what an opening parenthesis begins. -/
def openGroup (p : Progress) (text : List Char) : Option (Progress × List Char) := do
  let (opening, rest) ← readOpening p.ignore text
  match opening with
  | .flags flags =>
    return ({ p.push (.setFlags flags) with ignore := (ignoreBlank? flags).getD p.ignore }, rest)
  | .group flags name =>
    if name.any p.names.contains then none
    else
      return ({ parts := [], branches := [], ignore := (ignoreBlank? flags).getD p.ignore,
                stack := ⟨p.parts, p.branches, p.ignore, flags⟩ :: p.stack,
                names := name.toList ++ p.names }, rest)

/-- The progress after a closing parenthesis. -/
def closeGroup (p : Progress) : Option Progress :=
  match p.stack with
  | [] => none
  | g :: stack =>
    some { parts := .group g.flags p.body :: g.parts, branches := g.branches, ignore := g.ignore,
           stack := stack, names := p.names }

/-- The progress after the next part of the text, which begins with `c`. -/
def step (p : Progress) (c : Char) (rest : List Char) : Option (Progress × List Char) :=
  match c with
  | '(' => p.openGroup rest
  | ')' => p.closeGroup.map fun p => (p, rest)
  | '|' => some ({ p with parts := [], branches := ofParts p.parts :: p.branches }, rest)
  | '[' => (readClass p.ignore (c :: rest)).map fun (part, rest) => (p.push part, rest)
  | '?' => p.pushRepeat 0 (some 1) rest
  | '*' => p.pushRepeat 0 none rest
  | '+' => p.pushRepeat 1 none rest
  | '\x7b' => do
    let ((lo, hi), rest) ← readBounds p.ignore rest
    p.pushRepeat lo hi (skip p.ignore rest)
  | '\\' => (readEscape p.ignore rest).map fun (part, rest) => (p.push part, rest)
  | '.' => some (p.push .dot, rest)
  | '^' => some (p.push (.anchor .lineStart), rest)
  | '$' => some (p.push (.anchor .lineEnd), rest)
  | c => some (p.push (.literal ⟨c, false⟩), rest)

end Progress

/-- Reads on from the progress made; every step takes at least one character. -/
def readFrom : Nat → Progress → List Char → Option Pattern
  | 0, _, _ => none
  | fuel + 1, p, text =>
    match skip p.ignore text with
    | [] => if p.stack.isEmpty then some p.body else none
    | c :: rest => do
      let (p, rest) ← p.step c rest
      readFrom fuel p rest

/-- Reads a **written regular expression**. -/
def read? (text : List Char) : Option Pattern :=
  (readFrom (text.length + 1) ⟨[], [], false, [], []⟩ text).filter fun p => p.depth ≤ depthLimit

end SiteGen.Pattern

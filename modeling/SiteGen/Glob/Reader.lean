import SiteGen.Glob.Basic

/-!
# Reading globs

* `Glob.read` reads a written glob. A backslash takes the next character as it stands, brackets hold
  ranges, braces hold branches; two stars stand for directories only between slashes.
* `Glob.ofPattern` leaves out the dots for the current directory in front of a pattern first.
* `GlobError.message` is the wording of the errors.
-/

namespace SiteGen

/-- Why a text is **no glob**. -/
inductive GlobFault where
  /-- A bracket is not closed. -/
  | unclosedClass
  /-- A range runs backwards. -/
  | invalidRange (low high : Char)
  /-- A backslash comes last. -/
  | danglingEscape
  /-- A brace is closed that is not open. -/
  | unopenedBranches
  /-- A brace is not closed. -/
  | unclosedBranches
deriving DecidableEq, Repr

/-- The wording of a fault. -/
def GlobFault.message : GlobFault → String
  | .unclosedClass => "unclosed character class; missing ']'"
  | .invalidRange low high =>
    "invalid range; '" ++ String.singleton low ++ "' > '" ++ String.singleton high ++ "'"
  | .danglingEscape => "dangling '\\'"
  | .unopenedBranches =>
    "unopened alternate group; missing '\x7b' (maybe escape '\x7d' with '[\x7d]'?)"
  | .unclosedBranches =>
    "unclosed alternate group; missing '\x7d' (maybe escape '\x7b' with '[\x7b]'?)"

/-- A text that is no glob, and why. -/
structure GlobError where
  /-- The text. -/
  glob : String
  /-- What is wrong with it. -/
  fault : GlobFault
deriving DecidableEq, Repr

/-- The **wording** of an error. -/
def GlobError.message (e : GlobError) : String :=
  "error parsing glob '" ++ e.glob ++ "': " ++ e.fault.message

namespace Glob

/-! ## Classes -/

/-- The bytes of a character. -/
def bytesOf (c : Char) : List UInt8 := (String.singleton c).toUTF8.toList

/-- The ranges of bytes that ranges of characters stand for: of a character with several bytes, each
byte counts by itself. -/
def byteRanges (ranges : List (Char × Char)) : List (UInt8 × UInt8) :=
  ranges.flatMap fun (a, b) =>
    let low := bytesOf a
    let single := fun c => (c, c)
    if a = b then low.map single
    else
      let high := bytesOf b
      low.dropLast.map single ++ [(low.getLast?.getD 0, high.head?.getD 0)] ++
        (high.drop 1).map single

/-- The ranges, last first, with one more character: the end of the last range, or a new one. -/
def addToRanges (inRange : Bool) (ranges : List (Char × Char)) (c : Char) :
    Except GlobFault (List (Char × Char)) :=
  match inRange, ranges with
  | true, (a, _) :: others =>
    if c < a then .error (.invalidRange a c) else .ok ((a, c) :: others)
  | _, ranges => .ok ((c, c) :: ranges)

/-- Reads the characters of a class: `inRange` says that a dash has just been read after the last
range of `ranges`, which are given last first. -/
def readRanges (first inRange : Bool) (ranges : List (Char × Char)) :
    List Char → Except GlobFault (List (Char × Char) × List Char)
  | [] => .error .unclosedClass
  | c :: rest =>
    if c = ']' ∧ !first then
      .ok ((if inRange then ('-', '-') :: ranges else ranges).reverse, rest)
    else if c = '-' ∧ !first ∧ !inRange then readRanges false true ranges rest
    else match addToRanges inRange ranges c with
      | .ok ranges => readRanges false false ranges rest
      | .error fault => .error fault

theorem readRanges_length {first inRange : Bool} {ranges : List (Char × Char)} {text : List Char}
    {result : List (Char × Char) × List Char}
    (h : readRanges first inRange ranges text = .ok result) :
    result.2.length < text.length := by
  induction text generalizing first inRange ranges with
  | nil => simp [readRanges] at h
  | cons c rest ih =>
    rw [readRanges] at h
    split at h
    · cases h
      exact Nat.lt_succ_self _
    · split at h
      · exact Nat.lt_succ_of_lt (ih h)
      · split at h
        · exact Nat.lt_succ_of_lt (ih h)
        · cases h

/-- Whether a class is negated, and its text from there. -/
def takeNegation : List Char → Bool × List Char
  | '!' :: rest => (true, rest)
  | '^' :: rest => (true, rest)
  | text => (false, text)

theorem takeNegation_length (text : List Char) : (takeNegation text).2.length ≤ text.length := by
  unfold takeNegation
  split <;> simp

/-- Reads a class, from after its bracket. -/
def readClass (text : List Char) : Except GlobFault (GlobPiece × List Char) :=
  match readRanges true false [] (takeNegation text).2 with
  | .ok (ranges, rest) => .ok (.oneOf (takeNegation text).1 (byteRanges ranges), rest)
  | .error fault => .error fault

theorem readClass_length {text : List Char} {result : GlobPiece × List Char}
    (h : readClass text = .ok result) : result.2.length < text.length := by
  unfold readClass at h
  split at h
  · rename_i hr
    cases h
    exact Nat.lt_of_lt_of_le (readRanges_length hr) (takeNegation_length text)
  · cases h

/-! ## Branches -/

/-- What is open while a glob is read: the pieces of the current branch, last first, and the branches
of the braces around it. -/
structure Open where
  /-- The pieces of the current branch, last first. -/
  current : List GlobPiece
  /-- For each open brace, innermost first: the finished branches, last first, and the pieces before
  the brace. -/
  outer : List (List (List GlobPiece) × List GlobPiece)

namespace Open

/-- With one more piece. -/
def push (o : Open) (piece : GlobPiece) : Open := { o with current := piece :: o.current }

/-- With an open brace. -/
def openBrace (o : Open) : Open := ⟨[], ([], o.current) :: o.outer⟩

/-- With the innermost brace closed. -/
def closeBrace (o : Open) : Except GlobFault Open :=
  match o.outer with
  | [] => .error .unopenedBranches
  | (branches, before) :: outer =>
    .ok ⟨.choice ((o.current.reverse :: branches).reverse) :: before, outer⟩

/-- With the next branch of the innermost brace, or a comma where no brace is open. -/
def comma (o : Open) : Open :=
  match o.outer with
  | [] => o.push (.literal (bytesOf ','))
  | (branches, before) :: outer => ⟨[], (o.current.reverse :: branches, before) :: outer⟩

/-- Whether a brace is open. -/
def inBraces (o : Open) : Bool := !o.outer.isEmpty

/-- With the last piece replaced by directories; if it stood for leading directories or a trailing
path, it goes on to do so. -/
def replaceLast (o : Open) (piece : GlobPiece) : Open :=
  match o.current with
  | .leadingDirectories :: rest => { o with current := .leadingDirectories :: rest }
  | .trailingPath :: rest => { o with current := .trailingPath :: rest }
  | _ :: rest => { o with current := piece :: rest }
  | [] => { o with current := [piece] }

/-- Whether two stars after the given character may stand for directories. -/
def afterDirectory (o : Open) (before : Option Char) : Bool :=
  before == some '/' || (o.inBraces && (before == some ',' || before == some '\x7b'))

/-- Two stars that stand for no directories. -/
def twoStars (o : Open) : Open := (o.push .anyName).push .anyName

end Open

/-- Two stars: whether they stand for directories depends on what comes before and after. -/
def readStars (o : Open) (before : Option Char) (text : List Char) : Open × List Char :=
  if o.current.isEmpty then
    match text with
    | [] => (o.push .leadingDirectories, [])
    | '/' :: rest => (o.push .leadingDirectories, rest)
    | text => (o.twoStars, text)
  else if !o.afterDirectory before then (o.twoStars, text)
  else match text with
    | [] => (o.replaceLast .trailingPath, [])
    | '/' :: rest => (o.replaceLast .innerDirectories, rest)
    | c :: rest =>
      if (c = ',' ∨ c = '\x7d') ∧ o.inBraces then (o.replaceLast .trailingPath, c :: rest)
      else (o.twoStars, c :: rest)

theorem readStars_length (o : Open) (before : Option Char) (text : List Char) :
    (readStars o before text).2.length ≤ text.length := by
  unfold readStars
  split
  · split <;> simp
  · split
    · exact Nat.le_refl _
    · split
      · simp
      · simp
      · split <;> simp

/-- Reads the pieces of a glob; `before` is the character before the text. -/
def readPieces (o : Open) (before : Option Char) (text : List Char) : Except GlobFault Open :=
  match text with
  | [] => .ok o
  | '?' :: rest => readPieces (o.push .anyByte) (some '?') rest
  | '*' :: '*' :: rest =>
    have := readStars_length o before rest
    let result := readStars o before rest
    readPieces result.1 (if result.2.length < rest.length then some '/' else some '*') result.2
  | '*' :: rest => readPieces (o.push .anyName) (some '*') rest
  | '[' :: rest =>
    match h : readClass rest with
    | .error fault => .error fault
    | .ok result =>
      have := readClass_length h
      readPieces (o.push result.1) (some ']') result.2
  | '\x7b' :: rest => readPieces o.openBrace (some '\x7b') rest
  | '\x7d' :: rest =>
    match o.closeBrace with
    | .error fault => .error fault
    | .ok o => readPieces o (some '\x7d') rest
  | ',' :: rest => readPieces o.comma (some ',') rest
  | ['\\'] => .error .danglingEscape
  | '\\' :: c :: rest => readPieces (o.push (.literal (bytesOf c))) (some c) rest
  | c :: rest => readPieces (o.push (.literal (bytesOf c))) (some c) rest
termination_by text.length

/-- **Reads** a glob. -/
def read (text : String) : Except GlobError Glob :=
  match readPieces ⟨[], []⟩ none text.toList with
  | .error fault => .error ⟨text, fault⟩
  | .ok o =>
    if o.inBraces then .error ⟨text, .unclosedBranches⟩ else .ok ⟨o.current.reverse⟩

/-- A pattern without the dots for the current directory in front. -/
def trimHere : List Char → List Char
  | '.' :: '/' :: rest => trimHere rest
  | text => text

/-- The glob of a **pattern**. -/
def ofPattern (pattern : String) : Except GlobError Glob :=
  read (String.ofList (trimHere pattern.toList))

/-- The globs of patterns. -/
def ofPatterns (patterns : List String) : Except GlobError (List Glob) := patterns.mapM ofPattern

end Glob

end SiteGen

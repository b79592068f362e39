import SiteGen.Regex.Reader
import SiteGen.Text.CaseFold
import SiteGen.Text.DecimalDigit
import SiteGen.Text.Script
import SiteGen.Text.WordChar

/-!
# The meaning of written expressions

Flags are applied, classes are looked up, and counts are written out.

* `Pattern.meaning?` is the expression that a written one stands for; it is `none` if a class is not
  known, or if the expression could match a part of a character.
* `Regex.read?` reads an expression and gives its meaning.
-/

namespace SiteGen

/-- The flags in force. -/
structure Mode where
  /-- Letters match in either case. -/
  caseless : Bool
  /-- The line anchors match at every line. -/
  multiLine : Bool
  /-- The dot matches line feeds too. -/
  dotAll : Bool
  /-- Greedy and lazy repetition change places. -/
  swapGreed : Bool
  /-- Classes are those of all scripts; otherwise they are classes of bytes. -/
  unicode : Bool
  /-- Lines end with a carriage return, a line feed or both. -/
  crlf : Bool
deriving DecidableEq, Repr

namespace Mode

/-- The flags at the beginning of an expression. -/
def initial : Mode := ⟨false, false, false, false, true, false⟩

/-- The flags after setting or clearing one. -/
def set (mode : Mode) (flag : Flag) (value : Bool) : Mode :=
  match flag with
  | .caseless => { mode with caseless := value }
  | .multiLine => { mode with multiLine := value }
  | .dotAll => { mode with dotAll := value }
  | .swapGreed => { mode with swapGreed := value }
  | .unicode => { mode with unicode := value }
  | .crlf => { mode with crlf := value }
  | .ignoreBlank => mode

/-- The flags after setting and clearing some. -/
def setAll (mode : Mode) (flags : List (Flag × Bool)) : Mode :=
  flags.foldl (fun mode f => mode.set f.1 f.2) mode

end Mode

/-! ## Classes -/

/-- All bytes. -/
def CharSet.bytes : CharSet := ⟨[(0, 255)]⟩

/-- The set together with every ASCII letter that differs from a member only in case. -/
def CharSet.foldAsciiCase (s : CharSet) : CharSet :=
  let upper := s.inter ⟨[(65, 90)]⟩
  let lower := s.inter ⟨[(97, 122)]⟩
  ⟨s.ranges ++ upper.ranges.map (fun r => (r.1 + 32, r.2 + 32)) ++
    lower.ranges.map fun r => (r.1 - 32, r.2 - 32)⟩

/-- The name without blanks, underscores and dashes, in lower case, and without a leading `is`. -/
def PropertyName.normal (name : String) : String :=
  let keep := fun (cs : List Char) =>
    String.ofList ((cs.filter fun c => c.toNat < 0x80 && c != ' ' && c != '_' && c != '-').map
      Char.toLower)
  match name.toList with
  | i :: s :: rest =>
    if i.toLower = 'i' ∧ s.toLower = 's' then
      if keep rest = "c" then "isc" else keep rest
    else keep (i :: s :: rest)
  | cs => keep cs

/-- The class with one name: a property, a category or a script, whichever is found first. -/
def PropertyName.singleSet? (name : String) : Option CharSet :=
  let name := normal name
  let property := if ["cf", "sc", "lc"].contains name then none else Property.find? name
  (property.or (Category.find? name)).or (Script.find? name)

/-- The class of a property. -/
def PropertyName.set? : PropertyName → Option CharSet
  | .single name => singleSet? name
  | .value property name =>
    match normal property with
    | "gc" | "generalcategory" => Category.find? (normal name)
    | "sc" | "script" | "scx" | "scriptextensions" => Script.find? (normal name)
    | _ => none

/-- The class with a letter of its own. -/
def Shorthand.set (unicode : Bool) : Shorthand → CharSet
  | .digit => if unicode then .decimalDigit else ⟨[(48, 57)]⟩
  | .blank => if unicode then .blank else ⟨[(9, 13), (32, 32)]⟩
  | .word => if unicode then .wordChar else .asciiWordChar

namespace Mode

/-- The set as it stands, or its complement; a set of bytes must be one of ASCII characters. -/
def negate (mode : Mode) (negated : Bool) (s : CharSet) : Option CharSet :=
  if mode.unicode then some (if negated then s.compl else s)
  else
    let s := if negated then CharSet.bytes.diff s else s
    if s.isAscii then some s else none

/-- The set closed under change of case, if the flags say so. -/
def fold (mode : Mode) (s : CharSet) : CharSet :=
  if mode.caseless then if mode.unicode then s.foldCase else s.foldAsciiCase else s

/-- The number of a written character in a class. -/
def number? (mode : Mode) (c : Written) : Option Nat :=
  if mode.unicode || c.char.toNat < 0x80 || (c.isByte && c.char.toNat < 0x100) then
    some c.char.toNat
  else none

mutual

/-- The set that the contents of brackets stand for. -/
def itemSet? (mode : Mode) : ClassItem → Option CharSet
  | .empty => some .empty
  | .single c => (mode.number? c).map fun n => ⟨[(n, n)]⟩
  | .range lo hi => do return ⟨[(← mode.number? lo, ← mode.number? hi)]⟩
  | .named chars negated => mode.negate negated (mode.fold chars)
  | .shorthand kind negated => mode.negate negated (kind.set mode.unicode)
  | .property name negated =>
    if mode.unicode then name.set?.bind fun s => mode.negate negated (mode.fold s) else none
  | .bracketed item negated => (itemSet? mode item).bind fun s => mode.negate negated (mode.fold s)
  | .union items => itemSets? mode items
  | .combined operator left right => do
    let left := mode.fold (← itemSet? mode left)
    let right := mode.fold (← itemSet? mode right)
    match operator with
    | .intersection => return left.inter right
    | .difference => return left.diff right
    | .symmetricDifference => return left.symmDiff right

/-- The union of the sets that the items stand for. -/
def itemSets? (mode : Mode) : List ClassItem → Option CharSet
  | [] => some .empty
  | item :: items => do return (← itemSet? mode item).union (← itemSets? mode items)

end

/-! ## Expressions -/

/-- The set of a written character. -/
def literal? (mode : Mode) (c : Written) : Option CharSet :=
  if !mode.unicode && c.isByte && 0x80 ≤ c.char.toNat then none
  else if mode.caseless && !mode.unicode && 0x80 ≤ c.char.toNat then some (.single c.char)
  else some (mode.fold (.single c.char))

/-- The set of the dot. -/
def dot? (mode : Mode) : Option CharSet :=
  if !mode.unicode then none
  else if mode.dotAll then some .full
  else if mode.crlf then some (CharSet.compl (.ofList ['\n', '\r']))
  else some (CharSet.compl (.single '\n'))

/-- The test that a written one stands for. -/
def anchor (mode : Mode) : WrittenAnchor → Anchor
  | .textStart => .textStart
  | .textEnd => .textEnd
  | .lineStart =>
    if mode.multiLine then if mode.crlf then .lineStartCrlf else .lineStart else .textStart
  | .lineEnd => if mode.multiLine then if mode.crlf then .lineEndCrlf else .lineEnd else .textEnd
  | .word edge => .word edge (if mode.unicode then .wordChar else .asciiWordChar)

end Mode

namespace Pattern

mutual

/-- The expression that a written one stands for, and the flags in force after it. -/
def meaningIn? (mode : Mode) : Pattern → Option (Regex × Mode)
  | .empty => some (.empty, mode)
  | .setFlags flags => some (.empty, mode.setAll flags)
  | .literal c => (mode.literal? c).map fun s => (.set s, mode)
  | .dot => mode.dot?.map fun s => (.set s, mode)
  | .anchor test => some (.anchor (mode.anchor test), mode)
  | .shorthand kind negated =>
    (mode.negate negated (kind.set mode.unicode)).map fun s => (.set s, mode)
  | .property name negated =>
    (mode.itemSet? (.property name negated)).map fun s => (.set s, mode)
  | .bracketed item negated =>
    (mode.itemSet? (.bracketed item negated)).map fun s => (.set s, mode)
  | .repetition body lo hi greedy => do
    let (r, mode') ← meaningIn? mode body
    return (r.repeated (greedy != mode'.swapGreed) lo hi, mode')
  | .group flags body => do
    let (r, _) ← meaningIn? (mode.setAll flags) body
    return (r, mode)
  | .concat parts => do
    let (rs, mode') ← meaningsIn? mode parts
    return (Regex.sequence rs, mode')
  | .choice branches => do
    let (rs, mode') ← meaningsIn? mode branches
    return (Regex.anyOf rs, mode')

/-- The expressions that the written ones of a list stand for, and the flags after the last. -/
def meaningsIn? (mode : Mode) : List Pattern → Option (List Regex × Mode)
  | [] => some ([], mode)
  | part :: parts => do
    let (r, mode) ← meaningIn? mode part
    let (rs, mode) ← meaningsIn? mode parts
    return (r :: rs, mode)

end

/-- The **meaning** of a written expression. -/
def meaning? (p : Pattern) : Option Regex := (p.meaningIn? .initial).map (·.1)

end Pattern

/-- Reads a regular expression; `none` if the text is not one. -/
def Regex.read? (text : List Char) : Option Regex := (Pattern.read? text).bind Pattern.meaning?

end SiteGen

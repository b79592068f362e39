import SiteGen.Regex.Basic

/-!
# Written regular expressions

A regular expression as it is written, before flags are applied and classes are looked up.

* `Pattern` is the type of written expressions, `ClassItem` that of the contents of brackets.
* `Pattern.depth` is how deep an expression is nested; deeper ones than `Pattern.depthLimit` are
  refused.
* `Regex.quote` writes a text so that it matches itself.
-/

namespace SiteGen

/-- A flag that changes the meaning of what follows it. -/
inductive Flag where
  /-- Letters match in either case. -/
  | caseless
  /-- The line anchors match at every line. -/
  | multiLine
  /-- The dot matches line feeds too. -/
  | dotAll
  /-- Greedy and lazy repetition change places. -/
  | swapGreed
  /-- Classes are those of all scripts. -/
  | unicode
  /-- Lines end with a carriage return, a line feed or both. -/
  | crlf
  /-- Blanks and comments between the parts are left out. -/
  | ignoreBlank
deriving DecidableEq, Repr

/-- The three classes with a letter of their own. -/
inductive Shorthand where
  /-- Decimal digits. -/
  | digit
  /-- Blank characters. -/
  | blank
  /-- Word characters. -/
  | word
deriving DecidableEq, Repr

/-- A class of characters given by the name of a property, or of a property and a value. -/
inductive PropertyName where
  /-- One name. -/
  | single (name : String)
  /-- A property and its value. -/
  | value (property value : String)
deriving DecidableEq, Repr

/-- How two sets in brackets are combined. -/
inductive SetOperator where
  /-- The members of both. -/
  | intersection
  /-- The members of the first only. -/
  | difference
  /-- The members of exactly one. -/
  | symmetricDifference
deriving DecidableEq, Repr

/-- A character as it is written.  One given by two hexadecimal digits can stand for a byte. -/
structure Written where
  /-- The character. -/
  char : Char
  /-- Whether it was given by two hexadecimal digits. -/
  isByte : Bool
deriving DecidableEq, Repr

/-- The contents of brackets. -/
inductive ClassItem where
  /-- Nothing. -/
  | empty
  /-- One character. -/
  | single (c : Written)
  /-- A range of characters. -/
  | range (lo hi : Written)
  /-- A class of ASCII characters with a name. -/
  | named (chars : CharSet) (negated : Bool)
  /-- A class with a letter of its own. -/
  | shorthand (kind : Shorthand) (negated : Bool)
  /-- A class with a property. -/
  | property (name : PropertyName) (negated : Bool)
  /-- Brackets within the brackets. -/
  | bracketed (item : ClassItem) (negated : Bool)
  /-- The contents one after the other. -/
  | union (items : List ClassItem)
  /-- Two sets combined. -/
  | combined (operator : SetOperator) (left right : ClassItem)
deriving Repr

/-- A test on a place, as it is written; its meaning depends on the flags. -/
inductive WrittenAnchor where
  /-- The beginning of a line. -/
  | lineStart
  /-- The end of a line. -/
  | lineEnd
  /-- The beginning of the text. -/
  | textStart
  /-- The end of the text. -/
  | textEnd
  /-- The edge of a word. -/
  | word (edge : WordEdge)
deriving DecidableEq, Repr

/-- A **written regular expression**. -/
inductive Pattern where
  /-- Nothing. -/
  | empty
  /-- Flags for what follows. -/
  | setFlags (flags : List (Flag × Bool))
  /-- One character. -/
  | literal (c : Written)
  /-- Any character. -/
  | dot
  /-- A test on a place. -/
  | anchor (test : WrittenAnchor)
  /-- A class with a letter of its own. -/
  | shorthand (kind : Shorthand) (negated : Bool)
  /-- A class with a property. -/
  | property (name : PropertyName) (negated : Bool)
  /-- A class in brackets. -/
  | bracketed (item : ClassItem) (negated : Bool)
  /-- A repetition, without an upper bound if `hi` is `none`. -/
  | repetition (body : Pattern) (lo : Nat) (hi : Option Nat) (greedy : Bool)
  /-- A group, with flags for its contents. -/
  | group (flags : List (Flag × Bool)) (body : Pattern)
  /-- The parts one after the other. -/
  | concat (parts : List Pattern)
  /-- Any of the branches. -/
  | choice (branches : List Pattern)
deriving Repr

namespace ClassItem

mutual

/-- How deep the contents of brackets are nested. -/
def depth : ClassItem → Nat
  | .bracketed item _ => item.depth + 1
  | .union items => depths items + 1
  | .combined _ left right => max left.depth right.depth + 1
  | .empty | .single _ | .range _ _ | .named _ _ | .shorthand _ _ | .property _ _ => 0

/-- The depth of the deepest item. -/
def depths : List ClassItem → Nat
  | [] => 0
  | item :: items => max item.depth (depths items)

end

end ClassItem

namespace Pattern

mutual

/-- How deep an expression is nested. -/
def depth : Pattern → Nat
  | .bracketed item _ => item.depth + 1
  | .repetition body _ _ _ => body.depth + 1
  | .group _ body => body.depth + 1
  | .concat parts => depths parts + 1
  | .choice branches => depths branches + 1
  | .empty | .setFlags _ | .literal _ | .dot | .anchor _ | .shorthand _ _ | .property _ _ => 0

/-- The depth of the deepest expression. -/
def depths : List Pattern → Nat
  | [] => 0
  | part :: parts => max part.depth (depths parts)

end

/-- How deep an expression may be nested. -/
def depthLimit : Nat := 250

/-- The parts one after the other, the latest given first. -/
def ofParts (parts : List Pattern) : Pattern :=
  match parts with
  | [] => .empty
  | [part] => part
  | parts => .concat parts.reverse

/-- Any of the branches, the latest given first. -/
def ofBranches (branches : List Pattern) : Pattern :=
  match branches with
  | [branch] => branch
  | branches => .choice branches.reverse

end Pattern

namespace Regex

/-- The characters with a meaning of their own in a regular expression. -/
def metaChars : List Char :=
  ['\\', '.', '+', '*', '?', '(', ')', '|', '[', ']', '\x7b', '\x7d', '^', '$', '#', '&', '-', '~']

/-- Whether the character has a meaning of its own in a regular expression. -/
def isMeta (c : Char) : Bool := metaChars.contains c

/-- The regular expression that **matches exactly the text**, as it is written. -/
def quote (text : List Char) : List Char :=
  text.flatMap fun c => if isMeta c then ['\\', c] else [c]

end Regex

end SiteGen

import SiteGen.Text.CharSet

/-!
# Regular expressions

A regular expression says which stretches of a text match and, among the stretches that start at
one place, which of them is preferred.

* `Regex` is the type of expressions; groups record what they matched.
* `Anchor.holds` says when a test that takes no character succeeds.
* `Regex.opt`, `Regex.star`, `Regex.exactly`, `Regex.atLeast` and `Regex.between` are the usual
  repetitions, written with the two primitive loops.
-/

namespace SiteGen

/-- Where a word begins or ends. -/
inductive WordEdge where
  /-- A word character on exactly one side. -/
  | boundary
  /-- Word characters on both sides or on neither. -/
  | inside
  /-- No word character before, one after. -/
  | start
  /-- A word character before, none after. -/
  | stop
  /-- No word character before. -/
  | startHalf
  /-- No word character after. -/
  | stopHalf
deriving DecidableEq, Repr

/-- A test on the place between two characters. -/
inductive Anchor where
  /-- The beginning of the text. -/
  | textStart
  /-- The end of the text. -/
  | textEnd
  /-- The beginning of a line, lines ending with a line feed. -/
  | lineStart
  /-- The end of a line, lines ending with a line feed. -/
  | lineEnd
  /-- The beginning of a line, lines ending with a carriage return, a line feed or both. -/
  | lineStartCrlf
  /-- The end of a line, lines ending with a carriage return, a line feed or both. -/
  | lineEndCrlf
  /-- The edge of a word made of the given characters. -/
  | word (edge : WordEdge) (chars : CharSet)
deriving DecidableEq, Repr

/-- Whether the test succeeds between `before` and `after`, where `none` is the end of the text. -/
def Anchor.holds (anchor : Anchor) (before after : Option Char) : Bool :=
  match anchor with
  | .textStart => before.isNone
  | .textEnd => after.isNone
  | .lineStart => before.isNone || before == some '\n'
  | .lineEnd => after.isNone || after == some '\n'
  | .lineStartCrlf =>
    before.isNone || before == some '\n' || (before == some '\r' && after != some '\n')
  | .lineEndCrlf =>
    after.isNone || after == some '\r' || (after == some '\n' && before != some '\r')
  | .word edge chars =>
    let inBefore := before.any chars.contains
    let inAfter := after.any chars.contains
    match edge with
    | .boundary => inBefore != inAfter
    | .inside => inBefore == inAfter
    | .start => !inBefore && inAfter
    | .stop => inBefore && !inAfter
    | .startHalf => !inBefore
    | .stopHalf => !inAfter

/-- A **regular expression**. -/
inductive Regex where
  /-- The empty text. -/
  | empty
  /-- One character of the set. -/
  | set (chars : CharSet)
  /-- The empty text, where the test succeeds. -/
  | anchor (test : Anchor)
  /-- One expression after the other. -/
  | seq (first second : Regex)
  /-- Either expression, the first one preferred. -/
  | alt (first second : Regex)
  /-- One or more characters of the set: as many as possible if greedy, else as few. -/
  | run (chars : CharSet) (greedy : Bool)
  /-- The expression once or more: as often as possible if greedy, else as seldom. -/
  | loop (body : Regex) (greedy : Bool)
  /-- The expression, whose match is recorded under the index. -/
  | group (index : Nat) (body : Regex)
deriving DecidableEq, Repr

namespace Regex

/-- The expression that matches nothing. -/
def never : Regex := .set .empty

/-- One character. -/
def char (c : Char) : Regex := .set (.single c)

/-- The characters of a list, one after the other. -/
def text : List Char → Regex
  | [] => .empty
  | [c] => char c
  | c :: rest => .seq (char c) (text rest)

/-- One expression after the other, for a list.  What comes first is joined first, so that the
places reached after it are known once for all that follows. -/
def sequence : List Regex → Regex
  | [] => .empty
  | r :: rest => rest.foldl .seq r

/-- Any expression of a list, earlier ones preferred. -/
def anyOf : List Regex → Regex
  | [] => never
  | [r] => r
  | r :: rest => .alt r (anyOf rest)

/-- Whether the expression can match nothing but the empty text. -/
def takesNothing : Regex → Bool
  | .empty | .anchor _ => true
  | .set chars | .run chars _ => chars.ranges.isEmpty
  | .seq a b | .alt a b => a.takesNothing && b.takesNothing
  | .loop r _ | .group _ r => r.takesNothing

/-- The expression or the empty text. -/
def opt (r : Regex) (greedy : Bool) : Regex :=
  if greedy then .alt r .empty else .alt .empty r

/-- The expression once or more. -/
def plus (r : Regex) (greedy : Bool) : Regex :=
  match r with
  | .set chars => .run chars greedy
  | r => .loop r greedy

/-- The expression any number of times. -/
def star (r : Regex) (greedy : Bool) : Regex := opt (plus r greedy) greedy

/-- The expression exactly `n` times. -/
def exactly (r : Regex) (n : Nat) : Regex := sequence (List.replicate n r)

/-- The expression at most `n` times. -/
def atMost (r : Regex) (greedy : Bool) : Nat → Regex
  | 0 => .empty
  | 1 => opt r greedy
  | n + 1 => opt (.seq r (atMost r greedy n)) greedy

/-- The expression `n` times or more. -/
def atLeast (r : Regex) (greedy : Bool) : Nat → Regex
  | 0 => star r greedy
  | 1 => plus r greedy
  | n + 2 => .seq (exactly r (n + 1)) (plus r greedy)

/-- The expression from `lo` to `hi` times. -/
def between (r : Regex) (greedy : Bool) (lo hi : Nat) : Regex :=
  if lo = 0 then atMost r greedy hi
  else if hi ≤ lo then exactly r lo
  else .seq (exactly r lo) (atMost r greedy (hi - lo))

/-- The expression from `lo` to `hi` times, without an upper bound if `hi` is `none`.  What takes
nothing is tried at most once. -/
def repeated (r : Regex) (greedy : Bool) (lo : Nat) (hi : Option Nat) : Regex :=
  if r.takesNothing then between r greedy (min lo 1) (min (hi.getD 1) 1)
  else match hi with
    | none => atLeast r greedy lo
    | some hi => between r greedy lo hi

end Regex

end SiteGen

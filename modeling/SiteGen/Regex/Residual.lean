import SiteGen.Regex.Match

/-!
# Residuals

What is left to match of an expression after a character has been taken is again an expression, or
one of several.  Going through a text with all of them at once tells in one pass whether there is a
match at all; the places where it can end are looked for only if there is.

* `Regex.residuals` lists what can be left after a character.
* `Regex.accepts` says whether a match starts at a place.
* `Regex.checkedEnd?` is `Regex.firstEnd?` with that check in front.
-/

namespace SiteGen.Regex

/-- Whether the expression matches the empty text between `before` and `after`. -/
def nullable (before after : Option Char) : Regex → Bool
  | .empty => true
  | .set _ | .run _ _ => false
  | .anchor test => test.holds before after
  | .seq a b => a.nullable before after && b.nullable before after
  | .alt a b => a.nullable before after || b.nullable before after
  | .loop r _ | .group _ r => r.nullable before after

/-- One expression after the other, nothing being left out. -/
def andThen (r b : Regex) : Regex :=
  match r with
  | .empty => b
  | r => .seq r b

/-- What can be left of an expression after the character `c`, which stands after `before`. -/
def residuals (before : Option Char) (c : Char) : Regex → List Regex
  | .empty | .anchor _ => []
  | .set chars => if chars.contains c then [.empty] else []
  | .seq a b =>
    (a.residuals before c).map (·.andThen b) ++
      if a.nullable before (some c) then b.residuals before c else []
  | .alt a b => a.residuals before c ++ b.residuals before c
  | .run chars greedy => if chars.contains c then [.alt (.run chars greedy) .empty] else []
  | .loop r greedy => (r.residuals before c).map (·.andThen (.alt (.loop r greedy) .empty))
  | .group _ r => r.residuals before c

/-- Whether one of the expressions matches some beginning of `rest`, which stands after `before`. -/
def anyAccepts (before : Option Char) : List Char → List Regex → Bool
  | [], rs => rs.any (·.nullable before none)
  | c :: rest, rs =>
    rs.any (·.nullable before (some c)) ||
      let left := (rs.flatMap (·.residuals before c)).eraseDups
      !left.isEmpty && anyAccepts (some c) rest left

/-- Whether a match starts at the beginning of `rest`, which stands after `before`. -/
def accepts (r : Regex) (before : Option Char) (rest : List Char) : Bool :=
  anyAccepts before rest [r]

/-- How many repetitions without a bound there are; one of a whole expression counts twice, since
its parts can be divided among the rounds. -/
def unbounded : Regex → Nat
  | .empty | .set _ | .anchor _ => 0
  | .seq a b | .alt a b => a.unbounded + b.unbounded
  | .run _ _ => 1
  | .loop r _ => r.unbounded + 2
  | .group _ r => r.unbounded

/-- The preferred place to end a match.  Where looking for it could take long, it is looked for only
**if there is one**. -/
def checkedEnd? (r : Regex) : Finder := fun before rest =>
  if r.unbounded < 2 || r.accepts before rest then r.firstEnd? before rest else none

end SiteGen.Regex

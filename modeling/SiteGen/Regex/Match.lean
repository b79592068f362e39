import SiteGen.Regex.Basic

/-!
# Matching

`Regex.ends` lists the places where a match that starts at a given place can end, the preferred one
first and each place once.  Only the place matters for what follows, so of two ways to reach it the
preferred one is kept.

* `Regex.firstEnd?` is where the preferred match at a place ends.
* `Regex.Finder.split` cuts a text into its successive matches, from left to right, and what lies
  between.
* `Regex.replaceAll` puts a text in place of every match.
-/

namespace SiteGen

/-- A stretch of the text: the first `length` characters of `rest`. -/
structure Capture where
  /-- The text from the beginning of the stretch on. -/
  rest : List Char
  /-- The number of characters. -/
  length : Nat
deriving DecidableEq, Repr

/-- The characters of the stretch. -/
def Capture.text (c : Capture) : List Char := c.rest.take c.length

/-- A place reached while matching. -/
structure Position where
  /-- How many characters have been taken since the match began. -/
  taken : Nat
  /-- The character before, if any. -/
  before : Option Char
  /-- The text from here on. -/
  rest : List Char
  /-- What the groups have matched, the latest first. -/
  groups : List (Nat × Capture)
deriving DecidableEq, Repr

namespace Position

/-- The place after the character `c`, where `rest` is left. -/
def after (p : Position) (c : Char) (rest : List Char) : Position :=
  { p with taken := p.taken + 1, before := some c, rest := rest }

/-- The places after one character of the set, and after two, and so on. -/
def alongFrom (chars : CharSet) (p : Position) : List Char → List Position
  | [] => []
  | c :: rest =>
    if chars.contains c then p.after c rest :: alongFrom chars (p.after c rest) rest else []

/-- The places after one or more characters of the set, the nearest first. -/
def along (chars : CharSet) (p : Position) : List Position := alongFrom chars p p.rest

/-- The list without the later ones of two equal places, given a mask of places seen before. -/
def distinctFrom (seen : Nat) : List Position → List Position
  | [] => []
  | p :: ps =>
    if seen.testBit p.taken then distinctFrom seen ps
    else p :: distinctFrom (seen ||| 1 <<< p.taken) ps

/-- The list without the later ones of two **equal places**. -/
def distinct (ps : List Position) : List Position := distinctFrom 0 ps

end Position

namespace Regex

/-- The places found so far, the latest first, and a mask of them. -/
structure Found where
  /-- The places. -/
  places : List Position
  /-- The places through which the loop has been entered again. -/
  seen : Nat

/-- Goes on with a loop at a place reached by an earlier round, unless it was there before.  A round
that takes nothing leads nowhere new. -/
def again (step : Position → List Position) (greedy : Bool) : Nat → Position → Found → Found
  | 0, _, found => found
  | fuel + 1, p, found =>
    if found.seen.testBit p.taken then found
    else
      let found := { found with seen := found.seen ||| 1 <<< p.taken }
      let onward := fun found =>
        (step p).foldl
          (fun found q => if q.taken = p.taken then found else again step greedy fuel q found) found
      if greedy then
        let found := onward found
        { found with places := p :: found.places }
      else onward { found with places := p :: found.places }

/-- The places where a loop can end, when one round leads from `p` to the places `step p`. -/
def rounds (step : Position → List Position) (greedy : Bool) (p : Position) : List Position :=
  let first := fun (found : Found) q =>
    if q.taken = p.taken then
      if found.seen.testBit q.taken then found
      else { places := q :: found.places, seen := found.seen ||| 1 <<< q.taken }
    else again step greedy (p.rest.length + 1) q found
  ((step p).foldl first ⟨[], 0⟩).places.reverse

/-- The places where a match from `p` can end, the **preferred one first**. -/
def ends : Regex → Position → List Position
  | .empty, p => [p]
  | .set chars, p =>
    match p.rest with
    | [] => []
    | c :: rest => if chars.contains c then [p.after c rest] else []
  | .anchor test, p => if test.holds p.before p.rest.head? then [p] else []
  | .seq a b, p => Position.distinct ((a.ends p).flatMap b.ends)
  | .alt a b, p => Position.distinct (a.ends p ++ b.ends p)
  | .run chars greedy, p => if greedy then (p.along chars).reverse else p.along chars
  | .loop r greedy, p => rounds r.ends greedy p
  | .group index r, p =>
    (r.ends p).map fun q =>
      { q with groups := (index, ⟨p.rest, q.taken - p.taken⟩) :: q.groups }

/-- A match: what was matched, and what each group in it. -/
structure Match where
  /-- The matched text. -/
  text : List Char
  /-- What the groups matched, the latest first. -/
  groups : List (Nat × Capture)
deriving DecidableEq, Repr

/-- The text that a group matched, if it took part. -/
def Match.group? (m : Match) (index : Nat) : Option (List Char) :=
  (m.groups.lookup index).map Capture.text

/-- The preferred place to end a match that starts before `rest` and after `before`. -/
def firstEnd? (r : Regex) (before : Option Char) (rest : List Char) : Option Position :=
  (r.ends ⟨0, before, rest, []⟩).head?

/-- Whether a match starts at the beginning of the text. -/
def matchesStart (r : Regex) (text : List Char) : Bool := (r.firstEnd? none text).isSome

/-- A way to find the preferred match that starts between a character and a text. -/
abbrev Finder := Option Char → List Char → Option Position

/-- A text cut at its matches. -/
structure Split where
  /-- The matches, each with the text between the one before and itself. -/
  pieces : List (List Char × Match)
  /-- The text after the last match. -/
  tail : List Char
deriving DecidableEq, Repr

/-- Cuts the text `rest` after `before` at its matches, where `gap` has been passed over, the latest
character first.  Right after a match (`barred`) an empty match does not count. -/
def splitFrom (find : Finder) (before : Option Char) (rest : List Char) (barred : Bool)
    (gap : List Char) : Split :=
  match find before rest with
  | some q =>
    if _ : q.rest.length < rest.length then
      let found : Match := ⟨rest.take q.taken, q.groups⟩
      let onward := splitFrom find q.before q.rest true []
      { onward with pieces := (gap.reverse, found) :: onward.pieces }
    else if barred then
      match rest with
      | [] => ⟨[], gap.reverse⟩
      | c :: rest => splitFrom find (some c) rest false (c :: gap)
    else
      let onward := splitFrom find before rest true []
      { onward with pieces := (gap.reverse, ⟨[], q.groups⟩) :: onward.pieces }
  | none =>
    match rest with
    | [] => ⟨[], gap.reverse⟩
    | c :: rest => splitFrom find (some c) rest false (c :: gap)
termination_by (rest.length, if barred then 0 else 1)
decreasing_by
  all_goals simp_wf
  all_goals first
    | (apply Prod.Lex.left; simp_all; done)
    | (simp_all; apply Prod.Lex.right; decide)

/-- The text cut at its successive matches **from left to right**. -/
def Finder.split (find : Finder) (text : List Char) : Split := splitFrom find none text false []

/-- The text with `f m` in place of every match `m`. -/
def Finder.replaceAll (find : Finder) (f : Match → List Char) (text : List Char) : List Char :=
  let cut := find.split text
  cut.pieces.flatMap (fun piece => piece.1 ++ f piece.2) ++ cut.tail

/-- The text with `f m` in place of every match `m` of the expression. -/
def replaceAll (r : Regex) (f : Match → List Char) (text : List Char) : List Char :=
  Finder.replaceAll r.firstEnd? f text

/-- The number of bytes in which a text is stored. -/
def byteLength : List Char → Nat
  | [] => 0
  | c :: text => c.utf8Size + byteLength text

/-- The byte offsets at which the pieces begin and end. -/
def spansFrom (start : Nat) : List (List Char × Match) → List (Nat × Nat)
  | [] => []
  | (gap, found) :: rest =>
    let first := start + byteLength gap
    let last := first + byteLength found.text
    (first, last) :: spansFrom last rest

/-- The byte offsets at which the matches in the text begin and end. -/
def Finder.spans (find : Finder) (text : List Char) : List (Nat × Nat) :=
  spansFrom 0 (find.split text).pieces

end Regex

end SiteGen

import SiteGen.Formula.Walk
import SiteGen.Json.Writer
import SiteGen.Tree.Copy

/-!
# Test fixtures

A fixture is a JSON document. It is evaluated where it is and written back with an indentation of four
spaces, in ASCII.

* `evaluateFixture` evaluates one, `evaluateFixtures` all in a directory.
-/

namespace SiteGen

/-- Remarks several things. -/
def warnEach (warnings : List Warning) : Run Unit := warnings.forM Run.warn

/-- **Evaluates** the fixture in a file. -/
def evaluateFixture (path : Path) : Run Unit := do
  let text ← fileText path
  let fixture ← Run.ofResult ((Json.parse text).mapError (Error.invalidFixture path))
  warnEach (fixture.wildcards.map .unreplacedWildcard)
  putText path fixture.evaluate.fixture

/-- Evaluates the fixtures among names in a directory, and counts them. -/
def evaluateNames (directory : Path) : List String → Run Nat
  | [] => pure 0
  | name :: rest => do
    let path := directory.join ⟨[name]⟩
    if ← Run.inspect (·.hasFile path) then do
      evaluateFixture path
      let n ← evaluateNames directory rest
      pure (n + 1)
    else evaluateNames directory rest

/-- **Evaluates** the fixtures directly in a directory, and counts them. -/
def evaluateFixtures (directory : Path) : Run Nat := do
  let entries ← Run.query (·.listing directory)
  evaluateNames directory (entries.map (·.1))

end SiteGen

import SiteGen.Device
import SiteGen.Fixture
import SiteGen.Override

/-!
# Sites

A workspace holds the directories of sites, and libraries of variants beside them. A directory in a
site that is named for a kind of device is a device.

* `Workspace.siteNames` and `select` list the sites to run.
* `Site.enter` makes a site ready, `Site.readOverride` reads its override file.
* `Site.generate` makes the devices of a site anew, carries out the replacements, and evaluates the
  tests.
-/

namespace SiteGen

/-- A **workspace**. -/
structure Workspace where
  /-- The directory. -/
  root : Path
  /-- The kinds of devices. -/
  kinds : List String

/-- The kinds of devices that are known by themselves. -/
def standardKinds : List String :=
  ["twins", "ess-controller", "site-controller", "fleet-manager", "powercloud"]

namespace Workspace

/-- The directory of the sites. -/
def sites (w : Workspace) : Path := w.root.join ⟨["config"]⟩

/-- The **names of all sites**, in order. -/
def siteNames (w : Workspace) : Run (List String) := do
  let entries ← Run.query (·.listing w.sites)
  pure ((entries.filter (·.2.isDirectory)).map (·.1))

/-- A list without the names that equal the one before. -/
def dropRepeats : List String → List String
  | [] => []
  | [name] => [name]
  | a :: b :: rest => if a = b then dropRepeats (b :: rest) else a :: dropRepeats (b :: rest)

/-- Names in their order, each once. -/
def inOrder (names : List String) : List String :=
  dropRepeats (names.mergeSort fun a b => decide (a ≤ b))

/-- **The sites to run**: those that are requested, or all. -/
def select (w : Workspace) (requested : List String) : Run (List String) :=
  if requested.isEmpty then w.siteNames else pure (inOrder requested)

end Workspace

/-- A **site** of a workspace. -/
structure Site where
  /-- The name. -/
  name : String
  /-- The workspace. -/
  workspace : Workspace

/-- What a run of a site has done. -/
structure Summary where
  /-- The devices, in order. -/
  devices : List String
  /-- How many files the replacements have changed. -/
  replaced : Nat
  /-- How many fixtures have been evaluated. -/
  evaluated : Nat
deriving DecidableEq, Repr

namespace Site

/-- The directory. -/
def directory (s : Site) : Path := s.workspace.sites.join (Path.ofText s.name)

/-- The override file. -/
def overridePath (s : Site) : Path :=
  s.directory.join ⟨[FilesetReplacement.overrideName]⟩

/-- **Makes a site ready**: its directory and its override file are there afterwards. -/
def enter (s : Site) : Run Unit := do
  makeDirectories s.directory
  if ← Run.inspect (·.hasAny s.overridePath) then pure ()
  else putText s.overridePath ""

/-- Reads the override file. -/
def readOverride (s : Site) : Run Override := do
  if ← Run.inspect (·.hasFile s.overridePath) then do
    let text ← fileText s.overridePath
    Run.ofResult (Override.ofText text)
  else do
    Run.warn (.noOverride s.name)
    pure Override.empty

/-- The variant of a device: the chosen one, or the root variant if there is no other. -/
def chooseVariant (s : Site) (kind : String) (o : Override) : Run String := do
  match ← Run.ofResult (o.variant kind) with
  | some variant => pure variant
  | none => do
    let library := variantsDirectory s.workspace.root kind
    if !(← Run.inspect (·.hasDirectory library)) then
      Run.fail (.invalidVariant kind rootVariant library)
    else do
      let variants ← Run.query (·.listing library)
      if variants.length ≠ 1 then Run.fail (.missingVariant s.name kind)
      else do
        Run.warn (.assumedRoot s.name kind)
        pure rootVariant

/-- Makes a device **anew**, and gives the directory of its tests, if it has one. -/
def processDevice (s : Site) (kind : String) (o : Override) : Run (Option Path) := do
  let device := Device.ofSite kind s.directory
  device.clear
  let variant ← s.chooseVariant kind o
  let device := { device with variant }
  device.copyAll s.workspace.root
  match ← Run.ofResult (o.templates kind) with
  | some templates => do
    let _ ← device.expandAll templates
  | none => pure ()
  if ← Run.inspect (·.hasDirectory device.tests) then pure (some device.tests)
  else pure none

/-- Makes the devices among what is in the directory of the site, and gives their kinds and the
directories of their tests. -/
def processEach (s : Site) (o : Override) : List (String × Entry) → Run (List (String × Option Path))
  | [] => pure []
  | (name, e) :: rest => do
    if !e.isDirectory then processEach s o rest
    else if !s.workspace.kinds.contains name then do
      Run.warn (.unknownDevice s.name name)
      processEach s o rest
    else do
      let tests ← s.processDevice name o
      let others ← processEach s o rest
      pure ((name, tests) :: others)

/-- **Carries out replacements** in the files of the site, and counts the files changed. -/
def replaceAll (s : Site) : List FilesetReplacement → Run Nat
  | [] => pure 0
  | r :: rest => do
    let n ← r.apply s.directory
    let m ← replaceAll s rest
    pure (n + m)

/-- Evaluates the fixtures in several directories, and counts them. -/
def evaluateEach : List Path → Run Nat
  | [] => pure 0
  | directory :: rest => do
    let n ← evaluateFixtures directory
    let m ← evaluateEach rest
    pure (n + m)

/-- **Generates** the files of a site. -/
def generate (s : Site) : Run Summary := do
  let o ← s.readOverride
  let entries ← Run.query (·.listing s.directory)
  let devices ← s.processEach o entries
  let replacements ← Run.ofResult o.replacements
  let replaced ← s.replaceAll replacements
  let evaluated ← evaluateEach (devices.filterMap (·.2))
  pure ⟨devices.map (·.1), replaced, evaluated⟩

end Site

end SiteGen

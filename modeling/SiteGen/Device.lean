import SiteGen.Template.Expand

/-!
# Devices

A device of a site has the files of its variant: those of the root variant, with those of the chosen
variant over them. Tests are kept beside the configuration.

* `Device.clear` removes what an earlier run has made.
* `Device.copyRoot`, `copyVariant` and `copyAll` copy the files.
* `Device.expandAll` expands templates in the configuration.
-/

namespace SiteGen

/-- A **device** of a site. -/
structure Device where
  /-- The kind of device, which is also the name of its directory. -/
  kind : String
  /-- The chosen variant. -/
  variant : String
  /-- The directory. -/
  directory : Path

/-- The variant that every device starts from. -/
def rootVariant : String := "root"

/-- The name of the directory of tests. -/
def testsName : String := "tests"

/-- The name of the directory of the configuration. -/
def configName : String := "config"

/-- The directory of the **variants** of a kind of device. -/
def variantsDirectory (library : Path) (kind : String) : Path :=
  library.join (Path.ofText (kind ++ "_variants"))

namespace Device

/-- The device of a kind in a site, with the root variant. -/
def ofSite (kind : String) (site : Path) : Device :=
  ⟨kind, rootVariant, site.join (Path.ofText kind)⟩

/-- The directory of the configuration. -/
def config (device : Device) : Path := device.directory.join ⟨[configName]⟩

/-- The directory of the tests. -/
def tests (device : Device) : Path := device.directory.join ⟨[testsName]⟩

/-- Removes a directory if it is there. -/
def clearDirectory (path : Path) : Run Unit := do
  if ← Run.inspect (·.hasAny path) then Run.tryChange (·.removeAll path)
  else pure ()

/-- **Removes** what an earlier run has made. -/
def clear (device : Device) : Run Unit := do
  clearDirectory device.config
  clearDirectory device.tests

/-- Copies the **root variant** into the configuration, and moves its tests out. -/
def copyRoot (device : Device) (library : Path) : Run Unit := do
  let root := (variantsDirectory library device.kind).join ⟨[rootVariant]⟩
  if !(← Run.inspect (·.hasDirectory root)) then
    Run.fail (.invalidVariant device.kind rootVariant root)
  else do
    copyTree root device.config
    let copied := device.config.join ⟨[testsName]⟩
    if ← Run.inspect (·.hasDirectory copied) then moveTree copied device.tests
    else pure ()

/-- Copies something that is in the directory of a variant: directories as trees, tests to their
place, all else as files. -/
def copyPart (device : Device) (variant : Path) (name : String) : Run Unit := do
  let path := variant.join ⟨[name]⟩
  if ← Run.inspect (·.hasDirectory path) then
    copyTree path (if name = testsName then device.tests else device.config.join ⟨[name]⟩)
  else do
    makeDirectories device.config
    Run.change (·.copyFile path (device.config.join ⟨[name]⟩))

/-- Copies the **chosen variant** over what is there. -/
def copyVariant (device : Device) (library : Path) : Run Unit := do
  let variant := (variantsDirectory library device.kind).join (Path.ofText device.variant)
  if !(← Run.inspect (·.hasDirectory variant)) then
    Run.fail (.invalidVariant device.kind device.variant variant)
  else if device.variant = rootVariant then pure ()
  else do
    let parts ← Run.query (·.listing variant)
    parts.forM fun (name, _) => device.copyPart variant name

/-- Copies the root variant and the chosen one. -/
def copyAll (device : Device) (library : Path) : Run Unit := do
  device.copyRoot library
  device.copyVariant library

/-- **Expands** templates in the configuration one after the other. -/
def expandAll (device : Device) : List Template → Run (List (List Path))
  | [] => pure []
  | t :: rest => do
    let files ← t.expand device.config
    let others ← expandAll device rest
    pure (files :: others)

end Device

end SiteGen

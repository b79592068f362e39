/-!
# Warnings

What a run remarks without failing.

* `Warning.message` is the wording and `Warning.fields` the particulars, by name.
-/

namespace SiteGen

/-- A remark on something that looks wrong but does not stop the run. -/
inductive Warning where
  /-- A text begins with a wildcard that was never replaced. -/
  | unreplacedWildcard (leaf : String)
  /-- A template's pattern has no values. -/
  | emptyPattern (template : String)
  /-- A file selected for replacement does not exist. -/
  | missingFile (file : String)
  /-- A site has no override file. -/
  | noOverride (site : String)
  /-- A directory of a site is not named for a kind of device. -/
  | unknownDevice (site dir : String)
  /-- A device without a variant takes the only one there is. -/
  | assumedRoot (site device : String)
deriving DecidableEq, Repr

namespace Warning

/-- The wording of a warning. -/
def message : Warning → String
  | .unreplacedWildcard _ => "found an unreplaced wildcard"
  | .emptyPattern _ => "template pattern produced no values"
  | .missingFile _ => "matched path was not found"
  | .noOverride _ => "no override file was found"
  | .unknownDevice _ _ => "not a valid device type"
  | .assumedRoot _ _ => "assuming a root configuration"

/-- The particulars of a warning, in the order of their names. -/
def fields : Warning → List (String × String)
  | .unreplacedWildcard leaf => [("leaf", leaf)]
  | .emptyPattern template => [("template", template)]
  | .missingFile file => [("file", file)]
  | .noOverride site => [("site", site)]
  | .unknownDevice site dir => [("dir", dir), ("site", site)]
  | .assumedRoot site device => [("device", device), ("site", site)]

end Warning

end SiteGen

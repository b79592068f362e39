import SiteGen.Main
import SiteGen.Proofs.CommandLine.Sites
import SiteGen.Proofs.Device.Copy
import SiteGen.Proofs.Fixture.Directory
import SiteGen.Proofs.Fixture.Faithful
import SiteGen.Proofs.Formula.Matches
import SiteGen.Proofs.Formula.Meaning
import SiteGen.Proofs.Formula.RoundTrip
import SiteGen.Proofs.Formula.Separate
import SiteGen.Proofs.Formula.Unchanged
import SiteGen.Proofs.Formula.Wildcard
import SiteGen.Proofs.Replacement.Fold
import SiteGen.Proofs.Replacement.Listed
import SiteGen.Proofs.Replacement.Placeholder
import SiteGen.Proofs.Site.Again
import SiteGen.Proofs.Site.Content
import SiteGen.Proofs.Site.Default
import SiteGen.Proofs.Site.Refused
import SiteGen.Proofs.Template.Distinct
import SiteGen.Proofs.Template.Range
import SiteGen.Proofs.Tree.Move
import SiteGen.Proofs.Tree.Select
import SiteGen.Proofs.Yaml.Integer

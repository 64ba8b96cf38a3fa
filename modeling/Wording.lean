import Wording.Box.Step
import Wording.Log.Logger
import Wording.Proofs.Box.Layers
import Wording.Proofs.Template.BlockFlaw
import Wording.Reactive.Script
import Wording.Signup.Form
import Wording.Proofs.Box.Answers
import Wording.Proofs.Template.Cached
import Wording.Proofs.Reactive.Acts
import Wording.Proofs.Reactive.Linked
import Wording.Proofs.Reactive.Reachable
import Wording.Proofs.Reactive.Notified
import Wording.Proofs.Reactive.History
import Wording.Proofs.Reactive.Runs
import Wording.Proofs.Reactive.Readers
import Wording.Proofs.Box.Sound
import Wording.Proofs.Pattern.Tiling
import Wording.Proofs.Pattern.Delimited
import Wording.Proofs.Marker.Braces
import Wording.Proofs.Template.RoundTrip
import Wording.Proofs.Template.Spelled
import Wording.Proofs.Text.Html
import Wording.Proofs.Template.Escaped
import Wording.Proofs.Template.Refused
import Wording.Proofs.Agreement
import Wording.Proofs.Template.Reported
import Wording.Proofs.Paired.Session
import Wording.Proofs.Paired.Same
import Wording.Proofs.Paired.Listing
import Wording.Proofs.Box.Insulated
import Wording.Proofs.Box.Uncached
import Wording.Proofs.Settings.Runs
import Wording.Proofs.Settings.Updates
import Wording.Proofs.Box.Clone
import Wording.Proofs.Box.Twins
import Wording.Proofs.Box.Named
import Wording.Proofs.Box.Footing
import Wording.Proofs.Box.Extends
import Wording.Proofs.Box.Shared
import Wording.Proofs.Box.Apart
import Wording.Proofs.Catalog.Paths
import Wording.Proofs.Catalog.Given
import Wording.Proofs.Box.Invariant
import Wording.Proofs.Box.Fresh
import Wording.Proofs.Template.Mentioned
import Wording.Proofs.Settings.Usable
import Wording.Proofs.Box.Unasked
import Wording.Proofs.Reactive.Recollected
import Wording.Proofs.Reactive.Ending
import Wording.Proofs.Catalog.Laid
import Wording.Proofs.Signup.Complete
import Wording.Proofs.Cache.FirstInFirstOut
import Wording.Proofs.Expr.Visited
import Wording.Proofs.Template.Inert
import Wording.Proofs.Signup.Address
import Wording.Proofs.Expr.Answered
import Wording.Proofs.Template.Ending

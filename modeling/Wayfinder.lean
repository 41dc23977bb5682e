import Wayfinder.Json.Codec
import Wayfinder.Main
import Wayfinder.Session.Basic
import Wayfinder.Site.Visit
import Wayfinder.Proofs.Batches
import Wayfinder.Proofs.Changes
import Wayfinder.Proofs.Edit
import Wayfinder.Proofs.Highlight
import Wayfinder.Proofs.History
import Wayfinder.Proofs.Mirror
import Wayfinder.Proofs.Observations
import Wayfinder.Proofs.Ownership
import Wayfinder.Proofs.Redraw
import Wayfinder.Proofs.Release
import Wayfinder.Proofs.Stage
import Wayfinder.Proofs.Traffic
import Wayfinder.Proofs.Trail
import Wayfinder.Proofs.Watches
import Wayfinder.Proofs.Course
import Wayfinder.Proofs.Preferences
import Wayfinder.Proofs.Themes
import Wayfinder.Proofs.Choice
import Wayfinder.Proofs.Holders
import Wayfinder.Proofs.Hearers
import Wayfinder.Proofs.Quiet
import Wayfinder.Proofs.Notices
import Wayfinder.Proofs.Reload
import Wayfinder.Proofs.RoundTrip
import Wayfinder.Proofs.StorageFaults
import Wayfinder.Proofs.Tenure
import Wayfinder.Proofs.Subscriptions
import Wayfinder.Proofs.Churn
import Wayfinder.Proofs.Handover
import Wayfinder.Proofs.Outset
import Wayfinder.Proofs.Coalescing
import Wayfinder.Proofs.Lengths
import Wayfinder.Proofs.LengthArithmetic
import Wayfinder.Proofs.Glide
import Wayfinder.Proofs.Descent
import Wayfinder.Proofs.Contents
import Wayfinder.Proofs.Commands
import Wayfinder.Proofs.Confines
import Wayfinder.Proofs.Landing
import Wayfinder.Proofs.LateNews
import Wayfinder.Proofs.Registration
import Wayfinder.Proofs.Margins
import Wayfinder.Proofs.Grammar
import Wayfinder.Proofs.Clicks
import Wayfinder.Proofs.Overlay
import Wayfinder.Proofs.Ledgers
import Wayfinder.Proofs.Enrolments
import Wayfinder.Proofs.Audience

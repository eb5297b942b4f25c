import ObjectStore.Client.Call
import ObjectStore.Config.Store
import ObjectStore.Listing.Sequence
import ObjectStore.Logging
import ObjectStore.Object.Json
import ObjectStore.ReadOptions.Setting
import ObjectStore.Removal.Batches
import ObjectStore.Removal.Session
import ObjectStore.Time.DayNumber
import ObjectStore.Proofs.Listing.Delivery
import ObjectStore.Proofs.Listing.Course
import ObjectStore.Proofs.Listing.Progress
import ObjectStore.Proofs.Listing.Undisturbed
import ObjectStore.Proofs.Listing.Cancellation
import ObjectStore.Proofs.Removal.Attempts
import ObjectStore.Proofs.Removal.Runs
import ObjectStore.Proofs.Removal.Conservation
import ObjectStore.Proofs.Removal.Completion
import ObjectStore.Proofs.Removal.Listed
import ObjectStore.Proofs.Listing.Ending
import ObjectStore.Proofs.Client.Batches
import ObjectStore.Proofs.Client.Listing
import ObjectStore.Proofs.Client.Removal
import ObjectStore.Proofs.Removal.Fed
import ObjectStore.Proofs.Headers.Edits
import ObjectStore.Proofs.Query.RoundTrip
import ObjectStore.Proofs.ReadOptions.Precedence
import ObjectStore.Proofs.Removal.Release
import ObjectStore.Proofs.Http.Fields
import ObjectStore.Proofs.Http.Projection
import ObjectStore.Proofs.Listing.Cuts
import ObjectStore.Proofs.Removal.Accounting
import ObjectStore.Proofs.Removal.Grouping
import ObjectStore.Listing.Taking
import ObjectStore.Proofs.Listing.Taking
import ObjectStore.Proofs.Listing.Taken
import ObjectStore.Proofs.Listing.Sessions
import ObjectStore.Proofs.ReadOptions.Parameters
import ObjectStore.Proofs.ReadOptions.Ranges
import ObjectStore.Proofs.Time.Succession
import ObjectStore.Proofs.ReadOptions.Dates
import ObjectStore.Proofs.Headers.Sequences
import ObjectStore.Proofs.Http.Visible
import ObjectStore.Proofs.Encryption.Contribution
import ObjectStore.Proofs.WriteOptions.Separation
import ObjectStore.Proofs.WriteOptions.Tags
import ObjectStore.Proofs.Client.Exchanges
import ObjectStore.Proofs.Client.Conditions
import ObjectStore.Proofs.Client.Uploads
import ObjectStore.Proofs.ReadOptions.Refusals
import ObjectStore.Proofs.Client.Sizes
import ObjectStore.Proofs.Object.RoundTrip
import ObjectStore.Proofs.Config.Saving
import ObjectStore.Proofs.Listing.Stability
import ObjectStore.Proofs.Logging.Installation

import Lodging.Proofs.Calendar.Grammar
import Lodging.Proofs.Listing.Aggregation
import Lodging.Proofs.Listing.Routing
import Lodging.Proofs.Remote.Lookup
import Lodging.Proofs.Remote.SearchParams
import Lodging.Proofs.Sync.Occupancy
import Lodging.Proofs.Sync.Refresh
import Lodging.Proofs.Sync.Serializability
import Lodging.Proofs.Sync.Soundness
import Lodging.Proofs.Sync.Succession
import Lodging.Rehearsal.Run
import Lodging.Remote.Download
import Lodging.Settings
import Lodging.Sync.Timetable
import Lodging.Proofs.Day.Civil
import Lodging.Proofs.Calendar.Folding
import Lodging.Proofs.Day.Writing
import Lodging.Proofs.Calendar.Writing
import Lodging.Proofs.Sync.Rounds
import Lodging.Proofs.Sync.Turns
import Lodging.Proofs.Sync.Timetable
import Lodging.Proofs.Sync.Exclusion
import Lodging.Proofs.Sync.Deadlock
import Lodging.Proofs.Sync.Batches
import Lodging.Proofs.Calendar.History
import Lodging.Proofs.Sync.OneLoop
import Lodging.Proofs.Web.Failure
import Lodging.Proofs.Web.Calendars
import Lodging.Proofs.Web.Rehearsal
import Lodging.Proofs.Listing.TextSearch
import Lodging.Proofs.Listing.Agreement
import Lodging.Proofs.Web.Numbers
import Lodging.Proofs.Sync.NewFeeds
import Lodging.Proofs.Geo.Circle
import Lodging.Proofs.Remote.Download
import Lodging.Proofs.Settings.Partners
import Lodging.Proofs.Day.Dates
import Lodging.Proofs.Json.Fields
import Lodging.Proofs.Listing.Documents
import Lodging.Proofs.Calendar.Stamps

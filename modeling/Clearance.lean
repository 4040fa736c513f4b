import Clearance.Main
import Clearance.Proofs.Text.Segments
import Clearance.Proofs.Text.Trimmed
import Clearance.Proofs.Text.Occurrence
import Clearance.Proofs.Text.Capitals
import Clearance.Proofs.Text.Words
import Clearance.Proofs.Route.Names
import Clearance.Proofs.Route.Place
import Clearance.Proofs.Route.Serialize
import Clearance.Proofs.Route.Destination
import Clearance.Proofs.Route.Spelling
import Clearance.Proofs.Route.Transport
import Clearance.Proofs.Flight.Reroute
import Clearance.Proofs.Flight.Restore
import Clearance.Proofs.Flight.Cut
import Clearance.Proofs.Flight.Merge
import Clearance.Proofs.Flight.Repeat
import Clearance.Proofs.Flight.Resolve
import Clearance.Proofs.Preferential.Occurring
import Clearance.Proofs.Preferential.Splice
import Clearance.Proofs.Preferential.Composition
import Clearance.Proofs.Preferential.Joining
import Clearance.Proofs.Preferential.Refusal
import Clearance.Proofs.Preferential.Ranking
import Clearance.Proofs.Preferential.Badge
import Clearance.Proofs.Interpreter.Form
import Clearance.Proofs.Interpreter.Decision
import Clearance.Proofs.Interpreter.Meaning
import Clearance.Proofs.Store.Update
import Clearance.Proofs.Store.History
import Clearance.Proofs.Store.Effect
import Clearance.Proofs.Store.Footprint
import Clearance.Proofs.Store.Consistency
import Clearance.Proofs.Store.Agreement
import Clearance.Proofs.Store.Listing
import Clearance.Proofs.Store.Shortening
import Clearance.Proofs.Store.Desk
import Clearance.Proofs.Store.Flags
import Clearance.Proofs.Store.Commutation
import Clearance.Proofs.Store.Lookups
import Clearance.Proofs.Store.Cleanup
import Clearance.Proofs.Session.Admission
import Clearance.Proofs.Session.TypedLine
import Clearance.Proofs.CommandLine.Posts
import Clearance.Proofs.CommandLine.Preview
import Clearance.Proofs.Json.Scalars
import Clearance.Proofs.Json.Layout
import Clearance.Proofs.Json.Faithful
import Clearance.Proofs.Time.Calendar
import Clearance.Proofs.Time.Rfc3339
import Clearance.Proofs.Time.Elapsed
import Clearance.Proofs.Wire.Regular
import Clearance.Proofs.Decimal.Finite
import Clearance.Proofs.Json.Finite
import Clearance.Proofs.Wire.RoundTrip

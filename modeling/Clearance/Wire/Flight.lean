import Clearance.Flight.Patch
import Clearance.Preferential.Pending
import Clearance.Time.Rfc3339
import Clearance.Wire.Route
/-!
# Flight — written flights, patches and preferential routes

Flights and preferential routes may leave out whatever has its blank value; a patch leaves out what it does not change.
-/
namespace Clearance

namespace Time
namespace Instant

def codec : Codec Instant :=
  .written (fun t => String.ofList (Time.write t)) fun s => Time.read? s.toList

end Instant
end Time

namespace Transition

def name : Transition → String
  | .prepend => "Prepend"
  | .append => "Append"

def codec : Codec Transition := .named [.prepend, .append] name

end Transition

namespace PendingRule

def name : PendingRule → String
  | .arrival => "Arrival"
  | .departure => "Departure"

def codec : Codec PendingRule := .named [.arrival, .departure] name

end PendingRule

namespace PreferentialRoute

def fields : List (Codec.Field PreferentialRoute) :=
  [.defaulted "amendment" .text (·.amendment) fun c s => { c with amendment := s },
   .defaulted "route" .text (·.route) fun c s => { c with route := s },
   .defaulted "transitionFix" .text (·.transitionFix) fun c s => { c with transitionFix := s },
   .defaulted "transitionInfo" Transition.codec (·.transition) fun c t => { c with transition := t },
   .defaulted "eligible" .bool (·.eligible) fun c b => { c with eligible := b },
   .defaulted "routeFixes" (.list .text) (·.fixNames) fun c ns => { c with fixNames := ns },
   .defaulted "order" .uint32 (·.order) fun c n => { c with order := n },
   .defaulted "rnav" .bool (·.rnav) fun c b => { c with rnav := b }]

def codec : Codec PreferentialRoute := .record {} fields

end PreferentialRoute

namespace Flight

def fields : List (Codec.Field Flight) :=
  [.defaulted "aircraftId" .text (·.aircraftId) fun f s => { f with aircraftId := s },
   .defaulted "cid" .text (·.cid) fun f s => { f with cid := s },
   .defaulted "assignedBeaconCode" (.option .uint16) (·.beaconCode) fun f c => { f with beaconCode := c },
   .defaulted "equipment" .text (·.equipment) fun f s => { f with equipment := s },
   .defaulted "speed" .uint32 (·.speed) fun f n => { f with speed := n },
   .defaulted "altitude" .text (·.altitude) fun f s => { f with altitude := s },
   .defaulted "departure" .text (·.departure) fun f s => { f with departure := s },
   .defaulted "destination" .text (·.destination) fun f s => { f with destination := s },
   .defaulted "route" .text (·.filedRoute) fun f s => { f with filedRoute := s },
   .defaulted "routeFixes" (.list Fix.codec) (·.filedFixes) fun f xs => { f with filedFixes := xs },
   .defaulted "currentRoute" (.option .text) (·.amendedRoute) fun f s => { f with amendedRoute := s },
   .defaulted "currentRouteFixes" (.option (.list Fix.codec)) (·.amendedFixes)
     fun f xs => { f with amendedFixes := xs },
   .defaulted "formattedRoute" .text (·.formattedRoute) fun f s => { f with formattedRoute := s },
   .defaulted "previousRoute" (.option .text) (·.previousRoute) fun f s => { f with previousRoute := s },
   .defaulted "previousRouteFixes" (.option (.list Fix.codec)) (·.previousFixes)
     fun f xs => { f with previousFixes := xs },
   .defaulted "preferentialArrivalRoutes" (.list PreferentialRoute.codec) (·.arrivalRoutes)
     fun f cs => { f with arrivalRoutes := cs },
   .defaulted "preferentialDepartureRoutes" (.list PreferentialRoute.codec) (·.departureRoutes)
     fun f cs => { f with departureRoutes := cs },
   .defaulted "vci" .bool (·.vci) fun f b => { f with vci := b },
   .defaulted "aclDisplay" .bool (·.aclDisplay) fun f b => { f with aclDisplay := b },
   .defaulted "depDisplay" .bool (·.depDisplay) fun f b => { f with depDisplay := b },
   .defaulted "aclHighlighted" .bool (·.aclHighlighted) fun f b => { f with aclHighlighted := b },
   .defaulted "depHighlighted" .bool (·.depHighlighted) fun f b => { f with depHighlighted := b },
   .defaulted "pendingRemoval" (.option Time.Instant.codec) (·.pendingRemoval)
     fun f t => { f with pendingRemoval := t },
   .defaulted "position" (.option Position.codec) (·.position) fun f p => { f with position := p }]

def codec : Codec Flight := .record {} fields

end Flight

namespace Patch

def fields : List (Codec.Field Patch) :=
  [.omitted "currentRoute" .text (·.amendedRoute) fun p s => { p with amendedRoute := s },
   .omitted "currentRouteFixes" (.list Fix.codec) (·.amendedFixes) fun p xs => { p with amendedFixes := xs },
   .omitted "previousRoute" .text (·.previousRoute) fun p s => { p with previousRoute := s },
   .omitted "previousRouteFixes" (.list Fix.codec) (·.previousFixes) fun p xs => { p with previousFixes := xs },
   .omitted "vci" .bool (·.vci) fun p b => { p with vci := b },
   .omitted "aclDisplay" .bool (·.aclDisplay) fun p b => { p with aclDisplay := b },
   .omitted "depDisplay" .bool (·.depDisplay) fun p b => { p with depDisplay := b },
   .omitted "aclHighlighted" .bool (·.aclHighlighted) fun p b => { p with aclHighlighted := b },
   .omitted "depHighlighted" .bool (·.depHighlighted) fun p b => { p with depHighlighted := b }]

def codec : Codec Patch := .record {} fields

end Patch
end Clearance

import Clearance.Flight.Direct
import Clearance.Preferential.Compose
import Clearance.Response.Readout
/-!
# Gesture — route changes that are clicked instead of typed

Clicking a fix clears the flight direct to it, picking a preferential route puts the flight on it, and the previous
route can be brought back.
-/
namespace Clearance

/-- Whether a change is shown for review or made at once. -/
inductive RouteAction where
  | trialPlan
  | amend
  deriving DecidableEq, Repr

namespace Gesture

/-- The intent for a new route. -/
def intent (f : Flight) (route : String) (patch : Patch) : RouteAction → Intent
  | .amend => .mutate f.aircraftId patch
  | .trialPlan => .stage ⟨f.aircraftId, f.cid, patch, f.trialPlanMessage route⟩

def clearDirect (f : Flight) (fix : String) (action : RouteAction) : Except RejectKind Intent :=
  match Direct.ofFlight? f fix with
  | some d => .ok (intent f d.route (d.patch f) action)
  | none => .error .noRouteMembership

def applyPreferential (f : Flight) (c : PreferentialRoute) (table : FixTable) (action : RouteAction) :
    Except RejectKind Intent :=
  match c.compose f.currentNames with
  | some r => .ok (intent f r.route (r.patch f table) action)
  | none => .error .composeFailure

/-- Exchanges the current and the previous route, if there is a previous one. -/
def restorePrevious (f : Flight) (table : FixTable) : Option Intent :=
  f.previousRoute.map fun route =>
    .mutate f.aircraftId
      (Patch.reroute f route (f.previousFixes.getD (Route.parseTo route f.destination table)))

end Gesture
end Clearance

import Clearance.Flight.Basic
/-!
# Pending — which preferential route waits to be applied

An arrival route is pending if it is the only eligible one and its transition fix is still ahead of the flight.  Of the
departure routes the RNAV routes come first, and among equals the one with the lowest order.
-/
namespace Clearance

inductive PendingRule where
  | arrival
  | departure
  deriving DecidableEq, Repr

namespace PendingRule

def routes (rule : PendingRule) (f : Flight) : List PreferentialRoute :=
  match rule with
  | .arrival => f.arrivalRoutes
  | .departure => f.departureRoutes

/-- The first of the routes with the lowest order. -/
def lowest : List PreferentialRoute → Option PreferentialRoute
  | [] => none
  | c :: cs =>
    match lowest cs with
    | none => some c
    | some d => if d.order < c.order then some d else some c

/-- The route that the rule prefers. -/
def select (rule : PendingRule) (routes : List PreferentialRoute) (names : List String) : Option PreferentialRoute :=
  let eligible := routes.filter (·.eligible)
  match rule with
  | .arrival =>
    match eligible with
    | [c] => if names.contains c.transitionFix then some c else none
    | _ => none
  | .departure => lowest (if eligible.any (·.rnav) then eligible.filter (·.rnav) else eligible)

/-- Whether the route shown for the flight has the amendment: anywhere for an arrival, at its start for a departure. -/
def isApplied (rule : PendingRule) (c : PreferentialRoute) (f : Flight) : Bool :=
  let amendment := c.effectiveAmendment.toList
  match rule with
  | .arrival => Text.contains f.displayRoute.toList amendment
  | .departure => amendment.isPrefixOf f.displayRoute.toList

end PendingRule

namespace Flight

/-- The preferential route that is flagged as pending. -/
def pending? (f : Flight) (rule : PendingRule) : Option PreferentialRoute :=
  (rule.select (rule.routes f) f.currentNames).filter fun c => !rule.isApplied c f

/-- Whether the flight is on one of its preferential routes.  An arrival route counts only if it is eligible and its
transition fix is ahead. -/
def isOnAmendment (f : Flight) (rule : PendingRule) : Bool :=
  (rule.routes f).any fun c =>
    (match rule with
      | .arrival => c.eligible && f.currentNames.contains c.transitionFix
      | .departure => true)
    && rule.isApplied c f

end Flight
end Clearance

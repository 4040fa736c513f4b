/-!
# Candidate — preferential routes that adaptation offers a flight

A preferential route is a whole route text, together with the amendment that is sent to put a flight on it and the
transition fix at which the amendment leaves the filed route.
-/
namespace Clearance

/-- Whether the transition fix has to be put in front of the amendment. -/
inductive Transition where
  | prepend
  | append
  deriving DecidableEq, Repr

structure PreferentialRoute where
  amendment : String := ""
  route : String := ""
  transitionFix : String := ""
  transition : Transition := .append
  eligible : Bool := false
  fixNames : List String := []
  /-- The rank of the route; the lowest is preferred. -/
  order : UInt32 := 0
  rnav : Bool := false
  deriving DecidableEq, Repr

namespace PreferentialRoute

/-- The amendment as it becomes part of a route. -/
def effectiveAmendment (c : PreferentialRoute) : String :=
  match c.transition with
  | .prepend => c.transitionFix ++ c.amendment
  | .append => c.amendment

end PreferentialRoute
end Clearance

import Clearance.Flight.Patch
/-!
# Compose — putting a flight on a preferential route

The amendment is spliced onto what the preferential route and the flight's route have in common.  Fixes are searched for
as texts, so a name inside a longer one counts as well.
-/
namespace Clearance

/-- A preferential route from the flight's next fix on. -/
structure ComposedRoute where
  amendment : String
  route : String
  fixNames : List String
  deriving DecidableEq, Repr

namespace PreferentialRoute

/-- The route text from the flight's next fix on; the whole text if that fix does not occur in it. -/
def ahead (c : PreferentialRoute) (names : List String) : List Char :=
  match names.head? with
  | none => c.route.toList
  | some next =>
    match Text.find? next.toList c.route.toList with
    | some n => c.route.toList.drop n
    | none => c.route.toList

/-- The part of the route in front of the amendment.  It ends before the transition fix if the amendment has that. -/
def kept (c : PreferentialRoute) (names : List String) : List Char :=
  let fix := c.transitionFix.toList
  if !fix.isEmpty && Text.contains c.effectiveAmendment.toList fix then
    match Text.find? fix (c.ahead names) with
    | some n => (c.ahead names).take n
    | none => c.ahead names
  else c.ahead names

/-- The kept part and the amendment. -/
def body (c : PreferentialRoute) (names : List String) : List Char := c.kept names ++ c.effectiveAmendment.toList

/-- The names that occur in a text, each once and with the offset of its first occurrence, in the order of these. -/
def occurring (names : List String) (text : List Char) : List (Nat × String) :=
  let found := names.eraseDups.filterMap fun name =>
    if name.isEmpty then none else (Text.find? name.toList text).map fun n => (n, name)
  found.mergeSort fun a b => a.1 ≤ b.1

/-- The amended route of a flight with these fixes ahead, or `none` if it shares no fix with the body. -/
def compose (c : PreferentialRoute) (names : List String) : Option ComposedRoute :=
  let text := c.body names
  let shared := occurring (names ++ c.fixNames) text
  shared.head?.map fun first =>
    { amendment := c.effectiveAmendment
      route := ".." ++ String.ofList (text.drop first.1)
      fixNames := shared.map (·.2) }

end PreferentialRoute

namespace ComposedRoute

/-- Puts the flight on the route; its fixes are read from the text. -/
def patch (r : ComposedRoute) (f : Flight) (table : FixTable) : Patch :=
  Patch.reroute f r.route (Route.parseTo r.route f.destination table)

end ComposedRoute
end Clearance

import Clearance.Flight.Patch
/-!
# Direct — clearing a flight direct to a fix of its route

The new route starts at the fix.  Route text and list of fixes need not agree (airways, shortened segments), so the text
is cut behind the last fix, up to the cleared one, whose name stands in it.
-/
namespace Clearance

/-- A route that starts at a fix. -/
structure Direct where
  fix : String
  route : String
  fixes : List Fix
  deriving BEq, Repr

namespace Direct

/-- What follows the first occurrence of the first of the names that occurs in the text; the whole text if none does. -/
def tailBehind (raw : List Char) : List String → List Char
  | [] => raw
  | name :: names =>
    match Text.find? name.toList raw with
    | some n => raw.drop (n + name.toList.length)
    | none => tailBehind raw names

/-- Cuts a route at the first fix with this name, or `none` if there is no such fix. -/
def toFix? (fix raw : String) (fixes : List Fix) : Option Direct :=
  (fixes.findIdx? (fun f => f.name == fix)).map fun i =>
    { fix
      route := ".." ++ fix ++ String.ofList (tailBehind raw.toList (Fix.names (fixes.take (i + 1))).reverse)
      fixes := fixes.drop i }

/-- Cuts the current route of a flight. -/
def ofFlight? (f : Flight) (fix : String) : Option Direct := toFix? fix f.currentRoute f.currentFixes

/-- Puts the flight on the route. -/
def patch (d : Direct) (f : Flight) : Patch := Patch.reroute f d.route d.fixes

end Direct
end Clearance

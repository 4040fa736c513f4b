import Clearance.Flight.Basic
/-!
# Patch — changes of a flight

A patch names the new values of some of nine fields; the others stay as they are.
-/
namespace Clearance

structure Patch where
  amendedRoute : Option String := none
  amendedFixes : Option (List Fix) := none
  previousRoute : Option String := none
  previousFixes : Option (List Fix) := none
  vci : Option Bool := none
  aclDisplay : Option Bool := none
  depDisplay : Option Bool := none
  aclHighlighted : Option Bool := none
  depHighlighted : Option Bool := none
  deriving BEq, Repr

namespace Patch

instance : Inhabited Patch := ⟨{}⟩

/-- Whether the patch changes nothing. -/
def isEmpty (p : Patch) : Bool :=
  p.amendedRoute.isNone && p.amendedFixes.isNone && p.previousRoute.isNone && p.previousFixes.isNone && p.vci.isNone
    && p.aclDisplay.isNone && p.depDisplay.isNone && p.aclHighlighted.isNone && p.depHighlighted.isNone

/-- The flight with the patch's values. -/
def apply (p : Patch) (f : Flight) : Flight :=
  { f with
    amendedRoute := p.amendedRoute <|> f.amendedRoute
    amendedFixes := p.amendedFixes <|> f.amendedFixes
    previousRoute := p.previousRoute <|> f.previousRoute
    previousFixes := p.previousFixes <|> f.previousFixes
    vci := p.vci.getD f.vci
    aclDisplay := p.aclDisplay.getD f.aclDisplay
    depDisplay := p.depDisplay.getD f.depDisplay
    aclHighlighted := p.aclHighlighted.getD f.aclHighlighted
    depHighlighted := p.depHighlighted.getD f.depHighlighted }

/-- A new route for a flight; the one it has becomes the previous one. -/
def reroute (f : Flight) (route : String) (fixes : List Fix) : Patch :=
  { amendedRoute := some route
    amendedFixes := some fixes
    previousRoute := some f.currentRoute
    previousFixes := some f.currentFixes }

end Patch
end Clearance

import Clearance.Route.Basic
import Clearance.Preferential.Candidate
import Clearance.Time.Instant
/-!
# Flight — a flight as the controller's lists show it

The store holds flights; everything else only reads them and proposes patches.
-/
namespace Clearance

open Time (Instant)

structure Flight where
  aircraftId : String := ""
  /-- The computer identification, a short number that stands for the flight. -/
  cid : String := ""
  beaconCode : Option UInt16 := none
  equipment : String := ""
  speed : UInt32 := 0
  altitude : String := ""
  departure : String := ""
  destination : String := ""
  filedRoute : String := ""
  filedFixes : List Fix := []
  /-- The route after amendments, if there were any. -/
  amendedRoute : Option String := none
  amendedFixes : Option (List Fix) := none
  /-- The filed route as it is shown. -/
  formattedRoute : String := ""
  /-- The route before the last amendment. -/
  previousRoute : Option String := none
  previousFixes : Option (List Fix) := none
  arrivalRoutes : List PreferentialRoute := []
  departureRoutes : List PreferentialRoute := []
  vci : Bool := false
  aclDisplay : Bool := false
  depDisplay : Bool := false
  aclHighlighted : Bool := false
  depHighlighted : Bool := false
  /-- Since when the flight waits to be taken off the ACL. -/
  pendingRemoval : Option Instant := none
  position : Option Position := none
  deriving BEq, Repr

instance : Inhabited Flight := ⟨{}⟩

/-- Four digits, five for codes that need them. -/
def beaconText (code : UInt16) : String :=
  let ds := Nat.toDigits 10 code.toNat
  String.ofList (List.replicate (4 - ds.length) '0' ++ ds)

namespace Flight

/-- The route that the flight is cleared for. -/
def currentRoute (f : Flight) : String := f.amendedRoute.getD f.filedRoute

def currentFixes (f : Flight) : List Fix := f.amendedFixes.getD f.filedFixes

def currentNames (f : Flight) : List String := Fix.names f.currentFixes

/-- The beacon code as it is shown; a flight without one shows `0000`. -/
def beaconShown (f : Flight) : String := beaconText (f.beaconCode.getD 0)

/-- The route as the lists show it: without leading dots and without the destination. -/
def displayRoute (f : Flight) : String :=
  let route := match f.amendedRoute with
    | some r => Route.withoutLeadingDots r
    | none => f.formattedRoute
  Route.withoutDestination route f.destination

end Flight

/-! ## Resolving -/

namespace Flight

/-- The flight that a flight identifier addresses: the first one with this computer identification, else the first one
with this aircraft identification, else the first one with this beacon code. -/
def resolve (flights : List Flight) (fid : String) : Option Flight :=
  flights.find? (fun f => f.cid == fid)
    <|> flights.find? (fun f => f.aircraftId == fid)
    <|> flights.find? (fun f => f.beaconCode.any (fun c => beaconText c == fid))

end Flight
end Clearance

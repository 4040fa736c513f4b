import Clearance.Response.Basic
import Clearance.Time.Rfc3339
/-!
# Readout — texts about one flight
-/
namespace Clearance
namespace Flight

/-- The flight plan readout: the time, and on the line below the flight plan in short. -/
def readout (f : Flight) (now : Time.Instant) : String :=
  String.ofList (Time.hhmm now) ++ "\n" ++ f.aircraftId ++ " " ++ f.aircraftId ++ " " ++ f.equipment ++ " "
    ++ f.beaconShown ++ " " ++ String.ofList (Nat.toDigits 10 f.speed.toNat) ++ " EXX00 " ++ f.altitude ++ " "
    ++ f.departure ++ "./." ++ Route.withoutLeadingDots f.currentRoute ++ f.destination

/-- The message of a trial plan with this route. -/
def trialPlanMessage (f : Flight) (route : String) : String :=
  "AM " ++ f.cid ++ " RTE " ++ route ++ f.destination

end Flight
end Clearance

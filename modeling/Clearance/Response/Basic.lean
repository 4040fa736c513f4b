import Clearance.Flight.Patch
import Clearance.Text.Uppercase
/-!
# Response — what a command is answered with

A response accepts or rejects a command, has a message for the response area, and lists what the host is asked to do.
-/
namespace Clearance

inductive Status where
  | accept
  | reject
  deriving DecidableEq, Repr

inductive RejectKind where
  | unknownCommand
  | malformedArity
  /-- The fix is not on the current route of the flight, or no flight is addressed. -/
  | noRouteMembership
  /-- A preferential route shares no fix with the current route. -/
  | composeFailure
  deriving DecidableEq, Repr

inductive Window where
  | acl
  | dep
  | altimeter
  | metar
  deriving DecidableEq, Repr

/-- The list a flight is taken off. -/
inductive FlightList where
  | acl
  | dep
  deriving DecidableEq, Repr

/-- An amendment of a flight plan, as it is sent. -/
structure Amendment where
  aircraftId : String
  cid : String
  /-- The fixes of the route with spaces between them. -/
  route : String
  /-- Fix, radial and distance of the aircraft when the amendment was made. -/
  frd : Option String
  patch : Patch
  deriving BEq, Repr

/-- An amendment that is shown for review and not made. -/
structure TrialPlan where
  aircraftId : String
  cid : String
  patch : Patch
  message : String
  deriving BEq, Repr

/-- Something that the host is asked to do. -/
inductive Intent where
  | openWindow (window : Window)
  | closeAllWindows
  | setManualPosting (on : Bool)
  | addFlight (fid : String)
  | mutate (aircraftId : String) (patch : Patch)
  | delete (aircraftId : String) (list : FlightList)
  | toggleAltimeterWatch (stations : List String)
  | toggleWeatherWatch (stations : List String)
  | showReadout (text : String)
  | printStrip (aircraftId : String)
  | submit (amendment : Amendment)
  | stage (plan : TrialPlan)
  deriving BEq, Repr

structure Response where
  status : Status
  rejectKind : Option RejectKind
  message : String
  intents : List Intent
  deriving BEq, Repr

namespace Response

def accept (message : String) (intents : List Intent) : Response := ⟨.accept, none, message, intents⟩

def reject (kind : RejectKind) (message : String) : Response := ⟨.reject, some kind, message, []⟩

def isAccept (r : Response) : Bool := r.status = .accept

/-- The message as the response area shows it, in capitals. -/
def displayText (r : Response) : String := Text.capitals r.message

/-! ## Messages -/

/-- Accepted, with nothing to report. -/
def done (intents : List Intent) : Response := accept "ACCEPT\nD POS KEYBD" intents

def clearedDirect (amendment : Amendment) : Response := accept "ACCEPT\nCLEARED DIRECT" [.submit amendment]

/-- A direct clearance that is not possible. -/
def badFormat (kind : RejectKind) : Response := reject kind "REJECT\nFORMAT"

def altimeterAccepted (intents : List Intent) : Response := accept "ACCEPT\nALTIMETER REQ" intents

def weatherAccepted (raw : String) (intents : List Intent) : Response :=
  accept ("ACCEPT\nWEATHER STAT REQ\n" ++ raw) intents

def readoutAccepted (raw : String) (intents : List Intent) : Response := accept ("ACCEPT\nREADOUT\n" ++ raw) intents

def unknownCommand (raw : String) : Response := reject .unknownCommand ("REJECT\n\n" ++ raw)

def malformed (raw : String) : Response := reject .malformedArity ("REJECT\n" ++ raw)

def readoutTooLong (raw : String) : Response := reject .malformedArity ("REJECT: MESSAGE TOO LONG\nREADOUT\n" ++ raw)

end Response
end Clearance

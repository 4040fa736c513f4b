import Clearance.Response.Basic
import Clearance.Store.NameSet
/-!
# Store — the flights and windows of a position

The store carries out intents, one after the other; what is written later wins.  A flight is found again by its
aircraft identification.
-/
namespace Clearance

/-- The name under which a window is open. -/
def Window.title : Window → String
  | .acl => "ACL"
  | .dep => "DEP"
  | .altimeter => "ALTIMETER"
  | .metar => "METAR"

structure Store where
  flights : List Flight
  windows : NameSet
  manualPosting : Bool
  altimeterWatch : NameSet
  weatherWatch : NameSet
  readout : Option String
  deriving BEq, Repr

namespace Store

/-- A store of flights with nothing open. -/
def ofFlights (flights : List Flight) : Store := ⟨flights, .empty, false, .empty, .empty, none⟩

/-- Changes the first flight with this aircraft identification. -/
def updateFirst (aircraftId : String) (change : Flight → Flight) : List Flight → List Flight
  | [] => []
  | f :: fs => if f.aircraftId == aircraftId then change f :: fs else f :: updateFirst aircraftId change fs

def update (s : Store) (aircraftId : String) (change : Flight → Flight) : Store :=
  { s with flights := updateFirst aircraftId change s.flights }

/-- The flight is shown on the ACL and does not wait to be taken off it. -/
def showOnAcl (f : Flight) : Flight := { f with aclDisplay := true, pendingRemoval := none }

def takeOff (list : FlightList) (f : Flight) : Flight :=
  match list with
  | .acl => { f with aclDisplay := false }
  | .dep => { f with depDisplay := false }

def apply (s : Store) : Intent → Store
  | .openWindow w => { s with windows := s.windows.insert w.title }
  | .closeAllWindows => { s with windows := .empty }
  | .setManualPosting on => { s with manualPosting := on }
  | .addFlight fid =>
    match Flight.resolve s.flights fid with
    | some f => s.update f.aircraftId showOnAcl
    | none => s
  | .mutate aircraftId patch => s.update aircraftId patch.apply
  | .delete aircraftId list => s.update aircraftId (takeOff list)
  | .toggleAltimeterWatch stations =>
    { s with altimeterWatch := stations.foldl NameSet.toggle s.altimeterWatch }
  | .toggleWeatherWatch stations =>
    { s with weatherWatch := stations.foldl NameSet.toggle s.weatherWatch }
  | .showReadout text => { s with readout := some text }
  | .printStrip aircraftId => { s with windows := s.windows.insert ("STRIP " ++ aircraftId) }
  | .submit amendment => s.update amendment.aircraftId amendment.patch.apply
  | .stage _ => s

def applyAll (s : Store) (intents : List Intent) : Store := intents.foldl apply s

end Store
end Clearance

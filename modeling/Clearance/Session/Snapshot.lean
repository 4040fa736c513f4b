import Clearance.Session.File
import Clearance.Wire.Flight
/-!
# Snapshot — the flights that a session starts with

Flights are found again by their aircraft identification, so a snapshot is admitted only if every flight has one of its
own.
-/
namespace Clearance
namespace Snapshot

/-- The first flight, from left to right, whose aircraft identification is missing or was there before. -/
def firstFault : List String → List Flight → Option LoadError
  | _, [] => none
  | seen, f :: fs =>
    if f.aircraftId.isEmpty then some .missingId
    else if seen.contains f.aircraftId then some (.duplicateId f.aircraftId)
    else firstFault (f.aircraftId :: seen) fs

/-- The flights, if they are admitted. -/
def check (flights : List Flight) : Except LoadError (List Flight) :=
  match firstFault [] flights with
  | some e => .error e
  | none => .ok flights

def ofText (s : String) : Except LoadError (List Flight) :=
  match (Codec.list Flight.codec).ofText s with
  | .error f => .error (.json f)
  | .ok flights => check flights

def load (content : FileContent) : Except LoadError (List Flight) := do
  ofText (← content.text)

end Snapshot
end Clearance

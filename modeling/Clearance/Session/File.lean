import Clearance.Json.Codec
/-!
# File — what is in a file, and why it cannot be used
-/
namespace Clearance

inductive FileContent where
  | missing
  | unreadable
  | bytes (data : ByteArray)
  deriving Inhabited

/-- Why a file could not be used. -/
inductive LoadError where
  /-- It cannot be read, or is not text. -/
  | unreadable
  | json (fault : Fault)
  /-- A flight has no aircraft identification. -/
  | missingId
  /-- A second flight has this aircraft identification. -/
  | duplicateId (aircraftId : String)
  deriving DecidableEq, Repr

namespace LoadError

/-- The message about a snapshot that is well-formed and yet not admitted. -/
def message? : LoadError → Option String
  | .missingId => some "Invalid entry snapshot: entry without aircraftId"
  | .duplicateId aircraftId => some ("Invalid entry snapshot: duplicate aircraftId " ++ aircraftId)
  | .unreadable | .json _ => none

end LoadError

namespace FileContent

def ofString (s : String) : FileContent := .bytes s.toUTF8

/-- The text of a file. -/
def text : FileContent → Except LoadError String
  | .missing | .unreadable => .error .unreadable
  | .bytes data => (String.fromUTF8? data).elim (.error .unreadable) .ok

end FileContent
end Clearance

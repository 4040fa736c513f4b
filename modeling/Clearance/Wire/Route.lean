import Clearance.Json.Codec
import Clearance.Route.Fix
/-!
# Route — written fixes, positions and tables of them
-/
namespace Clearance

namespace Position

def codec : Codec Position :=
  .record default
    [.required "lat" .real (·.lat) fun p x => { p with lat := x },
     .required "lon" .real (·.lon) fun p x => { p with lon := x }]

end Position

namespace Fix

def codec : Codec Fix :=
  .record default
    [.required "name" .text (·.name) fun f s => { f with name := s },
     .defaulted "pos" (.option Position.codec) (·.position) fun f p => { f with position := p }]

end Fix

namespace FixTable

/-- Reads positions under the names of an object; of two with one name the later stays. -/
def decodeEntries (m : Mode) (t : FixTable) : Fields → Except Fault FixTable
  | .closed => .ok t
  | .broken g => .error g.reading
  | .cons (.error f) _ _ => .error f
  | .cons (.ok k) d rest =>
    match Position.codec.decode m d with
    | .error f => .error f
    | .ok p => decodeEntries m (t.set k p) rest

/-- The entries of a table as an object. -/
def entriesCodec : Codec FixTable where
  encode t := .object (t.entries.map fun e => (e.1, Position.codec.encode e.2))
  decode m d := match d with
    | .object fs => decodeEntries m .empty fs
    | d => .error d.wrongKind

def codec : Codec FixTable := .record .empty [.required "fixes" entriesCodec id fun _ t => t]

end FixTable
end Clearance

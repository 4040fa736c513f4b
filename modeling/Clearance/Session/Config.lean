import Clearance.Interpreter.Reaction
import Clearance.Session.File
/-!
# Config — what a session is set up with
-/
namespace Clearance

structure Config where
  artccId : String
  manualPosting : Bool
  /-- Where the flight data server is. -/
  frdUrl : Option String
  removalTimeoutSecs : Int64
  deriving DecidableEq, Repr

namespace Config

/-- Two minutes. -/
def defaultTimeoutSecs : Int64 := 120

instance : Inhabited Config := ⟨⟨"ZOA", false, none, defaultTimeoutSecs⟩⟩

def codec : Codec Config :=
  .record default
    [.required "artcc_id" .text (·.artccId) fun c s => { c with artccId := s },
     .defaulted "manual_posting" .bool (·.manualPosting) fun c b => { c with manualPosting := b },
     .defaulted "frd_url" (.option .text) (·.frdUrl) fun c s => { c with frdUrl := s },
     .defaulted "removal_timeout_secs" .int64 (·.removalTimeoutSecs) fun c n => { c with removalTimeoutSecs := n }]

/-- Reads a configuration; where there is no file the default counts. -/
def load (content : FileContent) : Except LoadError Config :=
  match content with
  | .missing => .ok default
  | content => do
    let s ← content.text
    (codec.ofText s).mapError .json

/-- The text of a configuration file. -/
def save (c : Config) : String := codec.toPretty c

/-- The greatest number of seconds that a span of time can have. -/
def maxTimeoutSecs : Int := 9223372036854775

/-- The timeout for removals.  A negative one and one that is too long do not count; the default takes their place. -/
def removalTimeout (c : Config) : Time.Span :=
  let n := c.removalTimeoutSecs.toInt
  .ofSeconds (if 0 ≤ n && n ≤ maxTimeoutSecs then n else defaultTimeoutSecs.toInt)

def context (c : Config) (now : Time.Instant) : Context := ⟨c.manualPosting, c.artccId, now, c.removalTimeout⟩

end Config
end Clearance

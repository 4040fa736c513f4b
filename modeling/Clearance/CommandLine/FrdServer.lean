import Clearance.CommandLine.Url
import Clearance.Interpreter.Reaction
import Clearance.Json.Printer
/-!
# FrdServer — asking the flight data server over HTTP

A request for fix, radial and distance is one POST to a fixed path below the configured address.  Any answer without an
error status is taken, without the blanks around it.
-/
namespace Clearance
namespace CommandLine

/-- A POST with a body of structured text. -/
structure HttpRequest where
  url : Url
  body : String
  deriving DecidableEq, Repr

structure HttpResponse where
  status : Nat
  body : String
  deriving DecidableEq, Repr

/-- Sends a request and waits for the response, or fails to get one. -/
abbrev Transport := HttpRequest → Option HttpResponse

namespace HttpRequest

/-- The request line. -/
def line (r : HttpRequest) : String := "POST " ++ r.url.target ++ " HTTP/1.1"

/-- The body of a request for fix, radial and distance. -/
def frdBody (q : FrdRequest) : Json :=
  .object [("artccId", .string q.artccId), ("lat", .number (.real q.position.lat)),
    ("lon", .number (.real q.position.lon))]

/-- The request to the server at an address, if that is an address at all. -/
def ofFrdRequest? (address : String) (q : FrdRequest) : Option HttpRequest :=
  let base := Text.dropEndWhile (· = '/') address.toList
  (Url.parse? (String.ofList base ++ "/edst/frd")).map fun url => ⟨url, (frdBody q).toCompact⟩

end HttpRequest

namespace HttpResponse

/-- Whether nothing more is to come.  Statuses below 200 announce another response, but for the change of protocol. -/
def isFinal (r : HttpResponse) : Bool := r.status = 101 || (200 ≤ r.status && r.status ≤ 999)

def isError (r : HttpResponse) : Bool := 400 ≤ r.status && r.status ≤ 599

/-- The text of a response.  Some statuses never come with one; a byte order mark is no part of it. -/
def text (r : HttpResponse) : List Char :=
  if r.status = 101 || r.status = 204 || r.status = 304 then []
  else match r.body.toList with
    | c :: cs => if c.toNat = 0xFEFF then cs else c :: cs
    | [] => []

def frd? (r : HttpResponse) : Option String :=
  if r.isFinal && !r.isError then some (String.ofList (Text.trim r.text)) else none

end HttpResponse

/-- The resolver that asks the server at an address. -/
def frdResolver (transport : Transport) (address : String) : FrdResolver := fun q => do
  let r ← HttpRequest.ofFrdRequest? address q
  let answer ← transport r
  answer.frd?

end CommandLine
end Clearance

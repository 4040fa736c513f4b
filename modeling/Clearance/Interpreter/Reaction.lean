import Clearance.Response.Basic
import Clearance.Time.Instant
/-!
# Reaction — a response, or a question that comes before it

Clearing a flight direct wants to know its fix, radial and distance, which the flight data server computes.  A command
therefore does not always come to a response at once: it may come to a request and what follows from each reply.  Which
requests are made can thus be read off, whoever answers them.
-/
namespace Clearance

/-- What a command may depend on besides the flights. -/
structure Context where
  manualPosting : Bool
  artccId : String
  now : Time.Instant
  /-- How long a flight stays on the ACL after it was marked for removal. -/
  removalTimeout : Time.Span
  deriving DecidableEq, Repr

/-- The question for fix, radial and distance of a position. -/
structure FrdRequest where
  artccId : String
  position : Position
  deriving BEq, Repr

inductive FrdReply where
  /-- There is nobody to ask. -/
  | unasked
  | failed
  | found (frd : String)
  deriving DecidableEq, Repr

/-- Answers requests, or fails to. -/
abbrev FrdResolver := FrdRequest → Option String

inductive Reaction where
  | done (response : Response)
  | lookup (request : FrdRequest) (next : FrdReply → Response)

namespace FrdReply

/-- The reply of a resolver, if there is one. -/
def ask (resolver : Option FrdResolver) (q : FrdRequest) : FrdReply :=
  match resolver with
  | none => .unasked
  | some f =>
    match f q with
    | none => .failed
    | some s => .found s

end FrdReply

namespace Reaction

/-- The response, with the resolver's reply if one is needed. -/
def settle (resolver : Option FrdResolver) : Reaction → Response
  | .done r => r
  | .lookup q next => next (FrdReply.ask resolver q)

/-- The request that is made to the resolver. -/
def request? (resolver : Option FrdResolver) : Reaction → Option FrdRequest
  | .done _ => none
  | .lookup q _ => resolver.map fun _ => q

end Reaction
end Clearance

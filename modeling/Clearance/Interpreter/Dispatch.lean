import Clearance.Command.Basic
import Clearance.Flight.Direct
import Clearance.Interpreter.Reaction
import Clearance.Response.Readout
/-!
# Dispatch — which command does what

Every form of every verb is one row of `table`: the verb, the number of arguments, and perhaps what the first argument
has to be.  The first row that matches a command handles it, so the rows that take whatever is left of a verb come after
its special ones.
-/
namespace Clearance

inductive Arity where
  | exactly (n : Nat)
  | atLeast (n : Nat)
  | any
  deriving DecidableEq, Repr

def Arity.accepts : Arity → Nat → Bool
  | .exactly n, k => k = n
  | .atLeast n, k => n ≤ k
  | .any, _ => true

/-- What a row of the table does. -/
inductive Action where
  | toggleVci
  | openAcl
  | openDep
  | closeAllWindows
  | toggleManualPosting
  | cleanUpAcl
  | addFlight
  | toggleHighlight
  | clearDirect
  | requestAltimeter
  | requestWeather
  | showReadout
  | printStrip
  | rejectMalformed
  | rejectTooLong
  deriving DecidableEq, Repr

structure Row where
  verb : String
  arity : Arity
  /-- What the first argument has to be. -/
  literal : Option String
  action : Action
  deriving DecidableEq, Repr

namespace Row

def matchesCommand (r : Row) (c : Command) : Bool :=
  r.verb == c.verb && r.arity.accepts c.arity && r.literal.all fun l => c.arg? 0 == some l

/-- The rows, the first match counts. -/
def table : List Row :=
  [⟨Command.vciVerb, .any, none, .toggleVci⟩,
   ⟨"UU", .exactly 0, none, .openAcl⟩,
   ⟨"UU", .exactly 1, some "C", .cleanUpAcl⟩,
   ⟨"UU", .exactly 1, some "D", .openDep⟩,
   ⟨"UU", .exactly 1, some "P", .toggleManualPosting⟩,
   ⟨"UU", .exactly 1, some "X", .closeAllWindows⟩,
   ⟨"UU", .exactly 1, none, .addFlight⟩,
   ⟨"UU", .exactly 2, some "H", .toggleHighlight⟩,
   ⟨"UU", .any, none, .rejectMalformed⟩,
   ⟨"QU", .any, none, .clearDirect⟩,
   ⟨"QD", .atLeast 1, none, .requestAltimeter⟩,
   ⟨"QD", .any, none, .rejectMalformed⟩,
   ⟨"WR", .atLeast 1, none, .requestWeather⟩,
   ⟨"WR", .any, none, .rejectMalformed⟩,
   ⟨"FR", .exactly 1, none, .showReadout⟩,
   ⟨"FR", .any, none, .rejectTooLong⟩,
   ⟨"SR", .exactly 1, none, .printStrip⟩,
   ⟨"SR", .any, none, .rejectMalformed⟩]

end Row

/-- A command, the flights it may address, and the context. -/
structure Request where
  command : Command
  flights : List Flight
  context : Context

namespace Request

/-- The flight that an argument addresses. -/
def flight? (q : Request) (n : Nat) : Option Flight := (q.command.arg? n).bind (Flight.resolve q.flights)

end Request

/-- The intents to patch a flight: none for a patch that changes nothing. -/
def Flight.mutation (f : Flight) (p : Patch) : List Intent := if p.isEmpty then [] else [.mutate f.aircraftId p]

/-- Whether a flight is on the ACL and was marked for removal longer ago than the timeout. -/
def Flight.isExpired (f : Flight) (context : Context) : Bool :=
  f.aclDisplay && f.pendingRemoval.any fun since => context.removalTimeout.nanos < (context.now.since since).nanos

namespace Action

def toggleVciResponse (q : Request) : Response :=
  .done ((q.flight? 0).elim [] fun f => f.mutation { vci := some !f.vci })

/-- Toggles the highlighting of a flight on the lists that show it. -/
def toggleHighlightResponse (q : Request) : Response :=
  .done ((q.flight? 1).elim [] fun f => f.mutation
    { aclHighlighted := if f.aclDisplay then some !f.aclHighlighted else none
      depHighlighted := if f.depDisplay then some !f.depHighlighted else none })

def cleanUpAclResponse (q : Request) : Response :=
  .done ((q.flights.filter (·.isExpired q.context)).map fun f => .delete f.aircraftId .acl)

/-- The amendment that clears a flight direct. -/
def amendment (f : Flight) (d : Direct) (frd : Option String) : Amendment :=
  { aircraftId := f.aircraftId
    cid := f.cid
    route := Route.amendmentText d.route
    frd
    patch := d.patch f }

/-- What follows from a reply.  A lookup that fails makes the command fail. -/
def clearDirectResponse (f : Flight) (d : Direct) : FrdReply → Response
  | .unasked => .clearedDirect (amendment f d none)
  | .failed => .badFormat .noRouteMembership
  | .found frd => .clearedDirect (amendment f d (some frd))

/-- Clears a flight on the ACL direct to a fix of its current route.  The server is asked where the aircraft is if its
position is known. -/
def clearDirectReaction (q : Request) : Reaction :=
  match q.command.args with
  | [fix, fid] =>
    match (Flight.resolve q.flights fid).filter (·.aclDisplay) with
    | none => .done (.badFormat .noRouteMembership)
    | some f =>
      match Direct.ofFlight? f fix with
      | none => .done (.badFormat .noRouteMembership)
      | some d =>
        match f.position with
        | none => .done (clearDirectResponse f d .unasked)
        | some p => .lookup ⟨q.context.artccId, p⟩ (clearDirectResponse f d)
  | _ => .done (.badFormat .malformedArity)

/-- The readout of a flight.  A flight that is not found is accepted, with nothing to show. -/
def showReadoutResponse (q : Request) : Response :=
  .readoutAccepted q.command.raw ((q.flight? 0).elim [] fun f => [.showReadout (f.readout q.context.now)])

def printStripResponse (q : Request) : Response :=
  .done ((q.flight? 0).elim [] fun f => [.printStrip f.aircraftId])

/-- What an action comes to. -/
def run (a : Action) (q : Request) : Reaction :=
  match a with
  | .toggleVci => .done (toggleVciResponse q)
  | .openAcl => .done (.done [.openWindow .acl])
  | .openDep => .done (.done [.openWindow .dep])
  | .closeAllWindows => .done (.done [.closeAllWindows])
  | .toggleManualPosting => .done (.done [.openWindow .acl, .setManualPosting !q.context.manualPosting])
  | .cleanUpAcl => .done (cleanUpAclResponse q)
  | .addFlight => .done (.done [.addFlight ((q.command.arg? 0).getD "")])
  | .toggleHighlight => .done (toggleHighlightResponse q)
  | .clearDirect => clearDirectReaction q
  | .requestAltimeter =>
    .done (.altimeterAccepted [.toggleAltimeterWatch q.command.args, .openWindow .altimeter])
  | .requestWeather =>
    .done (.weatherAccepted q.command.raw [.toggleWeatherWatch q.command.args, .openWindow .metar])
  | .showReadout => .done (showReadoutResponse q)
  | .printStrip => .done (printStripResponse q)
  | .rejectMalformed => .done (.malformed q.command.raw)
  | .rejectTooLong => .done (.readoutTooLong q.command.raw)

end Action

namespace Request

/-- What a command comes to.  A command without a row is unknown. -/
def dispatch (q : Request) : Reaction :=
  match Row.table.find? (·.matchesCommand q.command) with
  | some row => row.action.run q
  | none => .done (.unknownCommand q.command.raw)

end Request

/-- Interprets commands with the help of a resolver, if there is one. -/
structure Interpreter where
  resolver : Option FrdResolver

namespace Interpreter

def dispatch (i : Interpreter) (command : Command) (flights : List Flight) (context : Context) : Response :=
  (Request.dispatch ⟨command, flights, context⟩).settle i.resolver

/-- The response to a typed text. -/
def interpret (i : Interpreter) (text : String) (flights : List Flight) (context : Context) : Response :=
  i.dispatch (Command.parse text) flights context

/-- The request that the text makes to the resolver, if it makes one. -/
def request? (i : Interpreter) (text : String) (flights : List Flight) (context : Context) : Option FrdRequest :=
  (Request.dispatch ⟨Command.parse text, flights, context⟩).request? i.resolver

end Interpreter
end Clearance

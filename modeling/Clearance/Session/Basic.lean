import Clearance.Interpreter.ComposeArea
import Clearance.Interpreter.Gesture
import Clearance.Preferential.Pending
import Clearance.Store.Basic
/-!
# Session — commands, gestures and marks, one after the other

A session has a store, a compose area and a clock.  Each step is interpreted with what the store holds at that moment,
and the intents it leads to are applied before the next one.
-/
namespace Clearance

/-- What does not change during a session. -/
structure Setting where
  artccId : String
  removalTimeout : Time.Span
  interpreter : Interpreter
  table : FixTable

structure Session where
  store : Store
  area : ComposeArea
  clock : Time.Instant

/-- Something that happens in a session. -/
inductive Step where
  | setText (text : String)
  | pushText (text : String)
  | abort
  | submit
  /-- A command that is not typed into the compose area. -/
  | command (text : String)
  | setClock (now : Time.Instant)
  /-- The host marks a flight for removal since a time, or takes the mark away. -/
  | mark (fid : String) (since : Option Time.Instant)
  | applyIntents (intents : List Intent)
  | direct (fid fix : String) (action : RouteAction)
  | reroute (fid : String) (rule : PendingRule) (index : Nat) (action : RouteAction)
  | restore (fid : String)
  | pending (fid : String) (rule : PendingRule)
  | count

/-- What a step comes to. -/
inductive Outcome where
  | silent
  /-- The host hands in intents of its own. -/
  | requested (intents : List Intent)
  | cleared
  | answered (response : Response)
  /-- A route gesture. -/
  | rerouted (result : Except RejectKind Intent)
  | restored (intent : Option Intent)
  | pending (flight : Flight) (rule : PendingRule)
  | count (size : Nat)
  | noFlight
  | noRoute

namespace Outcome

/-- The intents that a step leads to. -/
def intents : Outcome → List Intent
  | .requested is => is
  | .answered r => r.intents
  | .rerouted (.ok i) => [i]
  | .restored (some i) => [i]
  | _ => []

end Outcome

namespace Session

/-- The context of the next step: manual posting is what the store says. -/
def context (setting : Setting) (s : Session) : Context :=
  ⟨s.store.manualPosting, setting.artccId, s.clock, setting.removalTimeout⟩

/-- A step that is about a flight. -/
def withFlight (s : Session) (fid : String) (step : Flight → Outcome × Session) : Outcome × Session :=
  match Flight.resolve s.store.flights fid with
  | some f => step f
  | none => (.noFlight, s)

/-- What a step comes to, and the session after it, before the step's intents are applied. -/
def react (setting : Setting) (s : Session) : Step → Outcome × Session
  | .setText text => (.silent, { s with area := ⟨text⟩ })
  | .pushText text => (.silent, { s with area := s.area.push text })
  | .abort => (.silent, { s with area := .empty })
  | .submit =>
    let (submission, area) := s.area.submit setting.interpreter s.store.flights (s.context setting)
    match submission with
    | .cleared => (.cleared, { s with area })
    | .answered r => (.answered r, { s with area })
  | .command text => (.answered (setting.interpreter.interpret text s.store.flights (s.context setting)), s)
  | .setClock now => (.silent, { s with clock := now })
  | .mark fid since => s.withFlight fid fun f =>
    (.silent, { s with store := s.store.update f.aircraftId fun g => { g with pendingRemoval := since } })
  | .applyIntents intents => (.requested intents, s)
  | .direct fid fix action => s.withFlight fid fun f => (.rerouted (Gesture.clearDirect f fix action), s)
  | .reroute fid rule index action => s.withFlight fid fun f =>
    match (rule.routes f)[index]? with
    | some c => (.rerouted (Gesture.applyPreferential f c setting.table action), s)
    | none => (.noRoute, s)
  | .restore fid => s.withFlight fid fun f => (.restored (Gesture.restorePrevious f setting.table), s)
  | .pending fid rule => s.withFlight fid fun f => (.pending f rule, s)
  | .count => (.count s.store.flights.length, s)

/-- Applies the intents of an outcome. -/
def apply (s : Session) (o : Outcome) : Session := { s with store := s.store.applyAll o.intents }

/-- One whole step. -/
def step (setting : Setting) (s : Session) (e : Step) : Outcome × Session :=
  let (o, t) := s.react setting e
  (o, t.apply o)

/-- The outcomes of steps and the session after them. -/
def run (setting : Setting) (s : Session) : List Step → List Outcome × Session
  | [] => ([], s)
  | e :: es =>
    let (o, t) := s.step setting e
    let (os, u) := t.run setting es
    (o :: os, u)

/-! ## Requests -/

/-- The text that a step has interpreted. -/
def text? (s : Session) : Step → Option String
  | .submit => if s.area.text.isEmpty then none else some s.area.text
  | .command text => some text
  | _ => none

/-- The request that a step makes to the resolver, if it makes one. -/
def request? (setting : Setting) (s : Session) (e : Step) : Option FrdRequest :=
  (s.text? e).bind fun text => setting.interpreter.request? text s.store.flights (s.context setting)

/-- The requests of steps, in the order in which they are made. -/
def requests (setting : Setting) (s : Session) : List Step → List FrdRequest
  | [] => []
  | e :: es => (s.request? setting e).toList ++ (s.step setting e).2.requests setting es

end Session
end Clearance

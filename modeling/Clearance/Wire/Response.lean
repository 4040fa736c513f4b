import Clearance.Command.Basic
import Clearance.Flight.Direct
import Clearance.Interpreter.Gesture
import Clearance.Preferential.Compose
import Clearance.Response.Basic
import Clearance.Wire.Flight
/-!
# Response — written commands, responses and intents

An intent is a variant: an object with its name under `type` and its content under `data`.  The intents with several
parts have an object as content, which may not be written as a list.
-/
namespace Clearance

namespace Status

def name : Status → String
  | .accept => "Accept"
  | .reject => "Reject"

def codec : Codec Status := .named [.accept, .reject] name

end Status

namespace RejectKind

def name : RejectKind → String
  | .unknownCommand => "UnknownCommand"
  | .malformedArity => "MalformedArity"
  | .noRouteMembership => "NoRouteMembership"
  | .composeFailure => "ComposeFailure"

def codec : Codec RejectKind :=
  .named [.unknownCommand, .malformedArity, .noRouteMembership, .composeFailure] name

end RejectKind

namespace Window

def name : Window → String
  | .acl => "Acl"
  | .dep => "Dep"
  | .altimeter => "Altimeter"
  | .metar => "Metar"

def codec : Codec Window := .named [.acl, .dep, .altimeter, .metar] name

end Window

namespace FlightList

def name : FlightList → String
  | .acl => "Acl"
  | .dep => "Dep"

def codec : Codec FlightList := .named [.acl, .dep] name

end FlightList

namespace RouteAction

def name : RouteAction → String
  | .trialPlan => "TrialPlan"
  | .amend => "Amend"

def codec : Codec RouteAction := .named [.trialPlan, .amend] name

end RouteAction

namespace Command

def codec : Codec Command :=
  .record ⟨"", [], ""⟩
    [.required "verb" .text (·.verb) fun c s => { c with verb := s },
     .required "args" (.list .text) (·.args) fun c ss => { c with args := ss },
     .required "raw" .text (·.raw) fun c s => { c with raw := s }]

end Command

namespace Direct

def codec : Codec Direct :=
  .record ⟨"", "", []⟩
    [.required "fix" .text (·.fix) fun d s => { d with fix := s },
     .required "route" .text (·.route) fun d s => { d with route := s },
     .required "route_fixes" (.list Fix.codec) (·.fixes) fun d xs => { d with fixes := xs }]

end Direct

namespace ComposedRoute

def codec : Codec ComposedRoute :=
  .record ⟨"", "", []⟩
    [.required "amendment" .text (·.amendment) fun c s => { c with amendment := s },
     .required "amended_route" .text (·.route) fun c s => { c with route := s },
     .required "amended_route_fixes" (.list .text) (·.fixNames) fun c ns => { c with fixNames := ns }]

end ComposedRoute

namespace Amendment

def codec : Codec Amendment :=
  .record ⟨"", "", "", none, {}⟩
    [.required "aircraft_id" .text (·.aircraftId) fun a s => { a with aircraftId := s },
     .required "cid" .text (·.cid) fun a s => { a with cid := s },
     .required "route" .text (·.route) fun a s => { a with route := s },
     .optional "frd" .text (·.frd) fun a s => { a with frd := s },
     .required "patch" Patch.codec (·.patch) fun a p => { a with patch := p }]

end Amendment

namespace TrialPlan

def codec : Codec TrialPlan :=
  .record ⟨"", "", {}, ""⟩
    [.required "aircraft_id" .text (·.aircraftId) fun t s => { t with aircraftId := s },
     .required "cid" .text (·.cid) fun t s => { t with cid := s },
     .required "patch" Patch.codec (·.patch) fun t p => { t with patch := p },
     .required "message" .text (·.message) fun t s => { t with message := s }]

end TrialPlan

namespace Intent

/-- The names of the intents. -/
inductive Tag where
  | openWindow
  | closeAllWindows
  | setManualPosting
  | addFlight
  | mutate
  | delete
  | toggleAltimeterWatch
  | toggleWeatherWatch
  | showReadout
  | printStrip
  | submit
  | stage
  deriving DecidableEq, Repr

namespace Tag

def name : Tag → String
  | .openWindow => "OpenWindow"
  | .closeAllWindows => "CloseAllWindows"
  | .setManualPosting => "SetManualPosting"
  | .addFlight => "AddEntryByFid"
  | .mutate => "MutateEntry"
  | .delete => "Delete"
  | .toggleAltimeterWatch => "ToggleAltimeterWatch"
  | .toggleWeatherWatch => "ToggleWeatherWatch"
  | .showReadout => "ShowReadout"
  | .printStrip => "PrintFlightStrip"
  | .submit => "SubmitAmendment"
  | .stage => "TrialPlan"

def all : List Tag :=
  [.openWindow, .closeAllWindows, .setManualPosting, .addFlight, .mutate, .delete, .toggleAltimeterWatch,
   .toggleWeatherWatch, .showReadout, .printStrip, .submit, .stage]

end Tag

/-- The content of `mutate`. -/
def mutationCodec : Codec (String × Patch) :=
  .objectOnly ("", {})
    [.required "aircraft_id" .text (·.1) fun c s => (s, c.2),
     .required "patch" Patch.codec (·.2) fun c p => (c.1, p)]

/-- The content of `delete`. -/
def deletionCodec : Codec (String × FlightList) :=
  .objectOnly ("", .acl)
    [.required "aircraft_id" .text (·.1) fun c s => (s, c.2),
     .required "list" FlightList.codec (·.2) fun c l => (c.1, l)]

/-- The content of `printStrip`. -/
def stripCodec : Codec String := .objectOnly "" [.required "aircraft_id" .text id fun _ s => s]

def tagged (t : Tag) (content : Json) : Json := .object [("type", .string t.name), ("data", content)]

def encode : Intent → Json
  | .openWindow w => tagged .openWindow (Window.codec.encode w)
  | .closeAllWindows => .object [("type", .string Tag.closeAllWindows.name)]
  | .setManualPosting on => tagged .setManualPosting (.bool on)
  | .addFlight fid => tagged .addFlight (.string fid)
  | .mutate aircraftId patch => tagged .mutate (mutationCodec.encode (aircraftId, patch))
  | .delete aircraftId list => tagged .delete (deletionCodec.encode (aircraftId, list))
  | .toggleAltimeterWatch stations => tagged .toggleAltimeterWatch ((Codec.list .text).encode stations)
  | .toggleWeatherWatch stations => tagged .toggleWeatherWatch ((Codec.list .text).encode stations)
  | .showReadout text => tagged .showReadout (.string text)
  | .printStrip aircraftId => tagged .printStrip (stripCodec.encode aircraftId)
  | .submit amendment => tagged .submit (Amendment.codec.encode amendment)
  | .stage plan => tagged .stage (TrialPlan.codec.encode plan)

/-- The content of `closeAllWindows`, where there is one: `null`. -/
def decodeNothing : Doc → Except Fault Intent
  | .null => .ok .closeAllWindows
  | d => .error d.wrongKind

def decodeContent (t : Tag) (m : Mode) (d : Doc) : Except Fault Intent :=
  match t with
  | .openWindow => (Window.codec.decode m d).map .openWindow
  | .closeAllWindows => decodeNothing d
  | .setManualPosting => (Codec.bool.decode m d).map .setManualPosting
  | .addFlight => (Codec.text.decode m d).map .addFlight
  | .mutate => (mutationCodec.decode m d).map fun c => .mutate c.1 c.2
  | .delete => (deletionCodec.decode m d).map fun c => .delete c.1 c.2
  | .toggleAltimeterWatch => ((Codec.list .text).decode m d).map .toggleAltimeterWatch
  | .toggleWeatherWatch => ((Codec.list .text).decode m d).map .toggleWeatherWatch
  | .showReadout => (Codec.text.decode m d).map .showReadout
  | .printStrip => (stripCodec.decode m d).map .printStrip
  | .submit => (Amendment.codec.decode m d).map .submit
  | .stage => (TrialPlan.codec.decode m d).map .stage

def variants : Codec.Variants Tag Intent where
  tags := Tag.all
  name := Tag.name
  content := decodeContent
  absent t := if t = .closeAllWindows then some .closeAllWindows else none

def codec : Codec Intent where
  encode := encode
  decode := variants.decode

end Intent

namespace Response

def codec : Codec Response :=
  .record ⟨.accept, none, "", []⟩
    [.required "status" Status.codec (·.status) fun r s => { r with status := s },
     .optional "reject_kind" RejectKind.codec (·.rejectKind) fun r k => { r with rejectKind := k },
     .required "message" .text (·.message) fun r s => { r with message := s },
     .required "intents" (.list Intent.codec) (·.intents) fun r is => { r with intents := is }]

end Response
end Clearance

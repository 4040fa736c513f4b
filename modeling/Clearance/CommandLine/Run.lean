import Clearance.CommandLine.Arguments
import Clearance.CommandLine.FrdServer
import Clearance.CommandLine.Usage
import Clearance.Session.Basic
import Clearance.Session.Config
import Clearance.Session.Snapshot
import Clearance.Wire.Response
/-!
# Run — the program, as a function of what it reads

Everything that the program reads is in `Environment`, everything it does in `Exit`.
-/
namespace Clearance
namespace CommandLine

structure Environment where
  file : String → FileContent
  /-- The configuration file that is used if none is named. -/
  configPath : String
  /-- Options that count where the command line does not set them. -/
  fallback : Options
  now : Time.Instant
  input : String
  transport : Transport

/-! ## Exits -/

/-- A line that ended with a line feed, without a carriage return in front of that. -/
def endedLine (l : List Char) : List Char := if l.getLast? = some '\r' then l.dropLast else l

structure Exit where
  code : Nat
  output : String
  /-- The first line of the error message. -/
  error : Option String
  requests : List HttpRequest

namespace Exit

def success (output : String) (requests : List HttpRequest) : Exit := ⟨0, output, none, requests⟩

/-- The line was refused. -/
def usage : Exit := ⟨2, "", none, []⟩

def failure (message : String) : Exit :=
  ⟨1, "", some ("Error: " ++ String.ofList (endedLine (message.toList.takeWhile (· ≠ '\n')))), []⟩

end Exit

/-! ## Printing -/

def printLine (s : String) : String := s ++ "\n"

def printIntent (i : Intent) : String := printLine ("  -> " ++ Intent.codec.toCompact i)

/-- A response: the message in capitals, then the intents. -/
def printResponse (r : Response) : String :=
  printLine ((if r.isAccept then "✓" else "X") ++ " " ++ r.displayText) ++ String.join (r.intents.map printIntent)

/-- The result of a gesture. -/
def printGesture : Except RejectKind Intent → String
  | .ok i => printLine (Intent.codec.toPretty i)
  | .error kind => printLine ("Rejected: " ++ kind.name)

def printNat (n : Nat) : String := String.ofList (Nat.toDigits 10 n)

def printBool (b : Bool) : String := if b then "true" else "false"

/-- A preferential route in the list of its rule, with the route it would lead to. -/
def printCandidate (names : List String) (n : Nat) (c : PreferentialRoute) : String :=
  printLine ("  [" ++ printNat n ++ "] " ++ c.effectiveAmendment ++ " eligible=" ++ printBool c.eligible ++ " -> "
    ++ ((c.compose names).elim "(no shared fix)" (·.route)))

/-- The routes of a rule, and which one is pending. -/
def printRule (f : Flight) (rule : PendingRule) : String :=
  printLine (rule.name ++ ": on amendment = " ++ printBool (f.isOnAmendment rule) ++ ", pending = "
    ++ (f.pending? rule).elim "" (·.effectiveAmendment))
    ++ String.join ((rule.routes f).mapIdx (printCandidate f.currentNames))

def printPending (f : Flight) : String := printRule f .arrival ++ printRule f .departure

/-! ## Setting up -/

structure Setup where
  config : Config
  flights : List Flight

/-- Options, with others for those that are not set. -/
def Options.orElse (o p : Options) : Options :=
  { o with
    snapshot := o.snapshot <|> p.snapshot
    artcc := o.artcc <|> p.artcc
    frdUrl := o.frdUrl <|> p.frdUrl }

/-- A path in quotation marks. -/
def quotePath (s : String) : String := String.ofList (Quoted.write s)

/-- Loads the configuration first and the snapshot second.  Options count before what the configuration says. -/
def load (env : Environment) (o : Options) (snapshot : String) : Except Exit Setup :=
  let configPath := o.config.getD env.configPath
  match Config.load (env.file configPath) with
  | .error _ => .error (.failure ("Failed to load config " ++ quotePath configPath))
  | .ok config =>
    match Snapshot.load (env.file snapshot) with
    | .error _ => .error (.failure ("Failed to load snapshot " ++ quotePath snapshot))
    | .ok flights =>
      .ok ⟨{ config with artccId := o.artcc.getD config.artccId, frdUrl := o.frdUrl <|> config.frdUrl }, flights⟩

/-- What the options ask to be loaded.  There is no default for the snapshot. -/
def prepare (env : Environment) (o : Options) : Except Exit Setup :=
  let o := o.orElse env.fallback
  o.snapshot.elim (.error .usage) (load env o)

namespace Setup

def interpreter (s : Setup) (transport : Transport) : Interpreter := ⟨s.config.frdUrl.map (frdResolver transport)⟩

/-- What is sent for requests, one each. -/
def httpRequests (s : Setup) (qs : List FrdRequest) : List HttpRequest :=
  s.config.frdUrl.elim [] fun address => qs.filterMap (HttpRequest.ofFrdRequest? address)

def setting (s : Setup) (env : Environment) : Setting :=
  ⟨s.config.artccId, s.config.removalTimeout, s.interpreter env.transport, .empty⟩

def session (s : Setup) (env : Environment) : Session :=
  ⟨{ Store.ofFlights s.flights with manualPosting := s.config.manualPosting }, .empty, env.now⟩

end Setup

/-! ## Subcommands -/

/-- Interprets one command, and shows the readout if the command asked for one. -/
def interpretOnce (env : Environment) (s : Setup) (text : String) : Exit :=
  let context := s.config.context env.now
  let interpreter := s.interpreter env.transport
  let r := interpreter.interpret text s.flights context
  let store := (s.session env).store.applyAll r.intents
  .success (printResponse r ++ store.readout.elim "" printLine)
    (s.httpRequests (interpreter.request? text s.flights context).toList)

/-- The lines of a text.  The last one need not be ended. -/
def inputLines (s : String) : List String :=
  let lines := Text.segments (· = '\n') s.toList
  let rest := lines.getLast?.getD []
  (lines.dropLast.map endedLine ++ if rest.isEmpty then [] else [rest]).map String.ofList

/-- A line is typed and submitted. -/
def lineSteps (line : String) : List Step := [.setText line, .submit]

/-- What is printed when a line was submitted. -/
def printOutcome : Outcome → String
  | .answered r => printResponse r
  | .cleared => printLine ""
  | _ => ""

/-- Submits lines.  Comes to the output, the requests, and the session after them. -/
def submitLines (s : Setup) (setting : Setting) (t : Session) (lines : List String) :
    String × List HttpRequest × Session :=
  let steps := lines.flatMap lineSteps
  let (outcomes, u) := t.run setting steps
  (String.join (outcomes.map printOutcome), s.httpRequests (t.requests setting steps), u)

/-- Runs a subcommand about the flight that `fid`, in capitals, addresses. -/
def withFlight (s : Setup) (fid : String) (run : Flight → Exit) : Exit :=
  match Flight.resolve s.flights (Text.capitals fid) with
  | some f => run f
  | none => .failure ("No flight matches " ++ fid)

def routeAction (amend : Bool) : RouteAction := if amend then .amend else .trialPlan

def runSubcommand (env : Environment) (s : Setup) : Subcommand → Exit
  | .interpret text => interpretOnce env s (String.intercalate " " text)
  | .repl =>
    let (output, requests, _) := submitLines s (s.setting env) (s.session env) (inputLines env.input)
    .success output requests
  | .direct fid fix amend => withFlight s fid fun f =>
    .success (printGesture (Gesture.clearDirect f (Text.capitals fix) (routeAction amend))) []
  | .pending fid => withFlight s fid fun f => .success (printPending f) []
  | .reroute fid index departure amend => withFlight s fid fun f =>
    match ((if departure then PendingRule.departure else .arrival).routes f)[index]? with
    | none => .failure (f.aircraftId ++ " has no route #" ++ printNat index)
    | some c => .success (printGesture (Gesture.applyPreferential f c .empty (routeAction amend))) []
  | .previousRoute fid => withFlight s fid fun f =>
    match Gesture.restorePrevious f .empty with
    | some i => .success (printLine (Intent.codec.toPretty i)) []
    | none => .success (printLine (f.aircraftId ++ " has no previous route")) []

/-- The whole program. -/
def run (env : Environment) (arguments : List String) : Exit :=
  match parse arguments with
  | .refused => .usage
  | .help topic => .success (helpText topic) []
  | .version => .success (printLine versionText) []
  | .run o subcommand =>
    match prepare env o with
    | .error e => e
    | .ok s => runSubcommand env s subcommand

end CommandLine
end Clearance

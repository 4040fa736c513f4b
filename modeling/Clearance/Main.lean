import Std.Async.DNS
import Std.Async.TCP
import Std.Time.DateTime.Timestamp
import Clearance.CommandLine.Http
import Clearance.CommandLine.Run
/-!
# Main — the command line

Reads files, environment and clock, sends requests, and prints what the library comes to.
-/
namespace Clearance
namespace CommandLine

open Std.Async Std.Net

def now : IO Time.Instant := do
  let nanos := (← Std.Time.Timestamp.now).toNanosecondsSinceUnixEpoch.val
  let seconds := nanos / 1000000000
  return (Time.Instant.ofParts? (seconds / 86400) (seconds % 86400).toNat (nanos % 1000000000).toNat).getD .epoch

def readFile (path : String) : IO FileContent := do
  try return .bytes (← IO.FS.readBinFile path)
  catch
    | .noFileOrDirectory .. => return .missing
    | _ => return .unreadable

def configPath : IO String := do
  match ← IO.getEnv "XDG_CONFIG_HOME", ← IO.getEnv "HOME" with
  | some dir, _ => return dir ++ "/edst/edst.json"
  | none, some home => return home ++ "/.config/edst/edst.json"
  | none, none => return ".edst/edst.json"

/-- The options that the environment sets. -/
def environmentOptions : IO Options := do
  return {
    snapshot := ← IO.getEnv "EDST_SNAPSHOT"
    artcc := ← IO.getEnv "EDST_ARTCC"
    frdUrl := ← IO.getEnv "EDST_FRD_URL" }

/-- Everything a connection sends until it is closed. -/
partial def receiveAll (client : TCP.Socket.Client) (received : ByteArray) : IO ByteArray := do
  match ← (client.recv? 65536).block with
  | some bytes => receiveAll client (received ++ bytes)
  | none => return received

/-- Sends a request; any failure on the way is no response. -/
def send (r : HttpRequest) : IO (Option HttpResponse) := do
  try
    let addresses ← (DNS.getAddrInfo r.url.host (toString r.url.port)).block
    match addresses[0]? with
    | none => return none
    | some address =>
      let client ← TCP.Socket.Client.mk
      let port := UInt16.ofNat r.url.port
      let target := match address with
        | .v4 a => SocketAddress.v4 ⟨a, port⟩
        | .v6 a => SocketAddress.v6 ⟨a, port⟩
      (client.connect target).block
      (client.send r.toText.toUTF8).block
      return HttpResponse.ofBytes? (← receiveAll client .empty).toList
  catch _ => return none

/-- Sends the requests, and answers them with the responses from then on. -/
def answering (requests : List HttpRequest) : IO Transport := do
  let responses ← requests.mapM fun r => return (r, ← send r)
  return fun r => (responses.lookup r).join

/-- Reads and runs one command per line. -/
partial def interact (env : Environment) (setup : Setup) (s : Session) : IO Unit := do
  let input ← (← IO.getStdin).getLine
  if input.isEmpty then return
  let line := (inputLines input).headD ""
  let s := { s with clock := ← now }
  let (_, requests, _) := submitLines setup (setup.setting env) s [line]
  let env := { env with transport := ← answering requests }
  let (output, _, s) := submitLines setup (setup.setting env) s [line]
  IO.print output
  (← IO.getStdout).flush
  interact env setup s

def finish (e : Exit) : IO UInt32 := do
  IO.print e.output
  for message in e.error do
    IO.eprintln message
  if e.code = 2 then IO.eprint mainHelp
  return UInt32.ofNat e.code

/-- The files that the options name. -/
def readFiles (configPath : String) (o : Options) : IO (List (String × FileContent)) :=
  (o.config.getD configPath :: o.snapshot.toList).mapM fun path => return (path, ← readFile path)

def program (arguments : List String) : IO UInt32 := do
  let configPath ← configPath
  let fallback ← environmentOptions
  let environment (o : Options) : IO Environment := do
    let files ← readFiles configPath (o.orElse fallback)
    return {
      file := fun path => (files.lookup path).getD .missing
      configPath, fallback
      now := ← now
      input := ""
      transport := fun _ => none }
  match parse arguments with
  | .run o .repl =>
    let env ← environment o
    match prepare env o with
    | .error e => finish e
    | .ok s =>
      interact env s (s.session env)
      return 0
  | .run o _ =>
    let env ← environment o
    let transport ← answering (run env arguments).requests
    finish (run { env with transport } arguments)
  | _ => finish (run (← environment {}) arguments)

end CommandLine
end Clearance

def main (arguments : List String) : IO UInt32 := Clearance.CommandLine.program arguments

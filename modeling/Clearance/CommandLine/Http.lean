import Clearance.CommandLine.FrdServer
/-!
# Http — requests and responses as they go over the wire
-/
namespace Clearance
namespace CommandLine

namespace HttpRequest

def port (r : HttpRequest) : String := if r.url.port = 80 then "" else ":" ++ toString r.url.port

/-- The whole request.  The server is asked to close the connection behind its response. -/
def toText (r : HttpRequest) : String :=
  String.join [r.line, "\r\ncontent-type: application/json\r\naccept: */*\r\nhost: ", r.url.host, r.port,
    "\r\nconnection: close\r\ncontent-length: ", toString r.body.utf8ByteSize, "\r\n\r\n", r.body]

end HttpRequest

namespace HttpResponse

/-- Cuts behind the first empty line. -/
def splitHead? (done : List UInt8) : List UInt8 → Option (List UInt8 × List UInt8)
  | 13 :: 10 :: 13 :: 10 :: rest => some (done.reverse, rest)
  | b :: rest => splitHead? (b :: done) rest
  | [] => none

def ascii (bytes : List UInt8) : List Char := bytes.map fun b => Char.ofNat b.toNat

/-- The number of a chunk size in hexadecimal digits. -/
def chunkSize (s : List Char) : Nat :=
  s.foldl (fun n c => match Quoted.hexValue? c with
    | some d => n * 16 + d
    | none => n) 0

/-- The content of a body that is sent in chunks, each with its size in front.  There are at most `fuel` chunks. -/
def joinChunks : Nat → List UInt8 → List UInt8
  | 0, _ => []
  | fuel + 1, bytes =>
    let size := chunkSize ((ascii (bytes.takeWhile (· ≠ 13))).takeWhile (· ≠ ';'))
    let rest := (bytes.dropWhile (· ≠ 13)).drop 2
    if size = 0 then [] else rest.take size ++ joinChunks fuel (rest.drop (size + 2))

/-- The status behind the protocol version. -/
def status? (line : List Char) : Option Nat :=
  let digits := ((line.dropWhile (· ≠ ' ')).drop 1).take 3
  if digits.length = 3 && digits.all Char.isDigit then some (Numeral.ofDigits digits) else none

/-- A response that was read to its end. -/
def ofBytes? (bytes : List UInt8) : Option HttpResponse := do
  let (head, body) ← splitHead? [] bytes
  let lines := Text.segments (· = '\n') (ascii head)
  let status ← status? (lines.headD [])
  let headers := lines.map fun l => (l.map Char.toLower).filter fun c => c ≠ ' ' && c ≠ '\r'
  let chunked := headers.contains "transfer-encoding:chunked".toList
  let body := if chunked then joinChunks body.length body else body
  let text ← String.fromUTF8? ⟨body.toArray⟩
  return ⟨status, text⟩

end HttpResponse
end CommandLine
end Clearance

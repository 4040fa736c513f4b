import Clearance.Text.Blank
/-!
# Url — where a request goes

Of an absolute `http` URL a request needs host, port and target, that is path and query.  Reading is as lenient as the
standard for URLs is: backslashes count as slashes, dots in the path are resolved, and characters that a target cannot
have are percent-encoded.
-/
namespace Clearance
namespace CommandLine

structure Url where
  host : String
  port : Nat
  target : String
  deriving DecidableEq, Repr

namespace Url

def hexUpper (n : Nat) : Char := (Nat.digitChar n).toUpper

/-- The bytes of a character, each as a percent sign and two hexadecimal digits. -/
def percent (c : Char) : List Char :=
  (String.singleton c).toUTF8.data.toList.flatMap fun b => ['%', hexUpper (b.toNat / 16), hexUpper (b.toNat % 16)]

/-- Encodes the characters in `reserved`, the controls, the space, and everything that is not ASCII. -/
def encode (reserved s : List Char) : List Char :=
  s.flatMap fun c => if c.toNat ≤ 32 || 126 < c.toNat || reserved.contains c then percent c else [c]

def encodePath (s : List Char) : List Char := encode ['"', '#', '<', '>', '?', '`', '{', '}', '^'] s

def encodeQuery (s : List Char) : List Char := encode ['"', '#', '<', '>', '\''] s

def isSlash (c : Char) : Bool := c = '/' || c = '\\'

/-- A segment with the escapes of the full stop undone. -/
def plainDots : List Char → List Char
  | '%' :: '2' :: 'e' :: r => '.' :: plainDots r
  | '%' :: '2' :: 'E' :: r => '.' :: plainDots r
  | c :: r => c :: plainDots r
  | [] => []

/-- Resolves the segments for here and for one level up.  `done` are the segments so far, the last one first. -/
def resolveDots (done : List (List Char)) : List (List Char) → List (List Char)
  | [] => done.reverse
  | s :: rest =>
    let last := rest.isEmpty
    if plainDots s = ['.', '.'] then resolveDots (if last then [] :: done.drop 1 else done.drop 1) rest
    else if plainDots s = ['.'] then resolveDots (if last then [] :: done else done) rest
    else resolveDots (s :: done) rest

/-- The path of a target; without any it is a slash. -/
def writePath (s : List Char) : List Char :=
  match s with
  | [] => ['/']
  | _ :: r => (resolveDots [] (Text.segments isSlash r)).flatMap fun t => '/' :: encodePath t

def isTabOrNewline (c : Char) : Bool := c = '\t' || c = '\n' || c = '\r'

/-- The text without controls and spaces at its ends, and without tabs and line ends anywhere. -/
def clean (s : List Char) : List Char :=
  (Text.dropEndWhile (fun c => c.toNat ≤ 32) (s.dropWhile fun c => c.toNat ≤ 32)).filter fun c => !isTabOrNewline c

/-- What follows the scheme `http:` and the slashes behind it. -/
def afterScheme? (s : List Char) : Option (List Char) :=
  if (s.take 5).map Char.toLower = ['h', 't', 't', 'p', ':'] then some ((s.drop 5).dropWhile isSlash) else none

/-- The part behind the last `@`. -/
def withoutUser (s : List Char) : List Char := (s.reverse.takeWhile (· ≠ '@')).reverse

/-- A port number; without digits it is 80. -/
def port? (s : List Char) : Option Nat :=
  if s.isEmpty then some 80
  else if s.all Char.isDigit then
    let n := s.foldl (fun n c => n * 10 + (c.toNat - '0'.toNat)) 0
    if n < 65536 then some n else none
  else none

/-- Host and port.  A host in brackets may have colons. -/
def authority? (s : List Char) : Option (String × Nat) :=
  let behind := s.reverse.takeWhile fun c => c ≠ ':' && c ≠ ']'
  let bracketed := s.getLast? = some ']'
  let hasPort := !bracketed && behind.length < s.length && s[s.length - behind.length - 1]? = some ':'
  let host := if hasPort then s.take (s.length - behind.length - 1) else s
  let port := if hasPort then behind.reverse else []
  if host.isEmpty || host.any (fun c => c.toNat ≤ 32 || ['<', '>', '^', '|', '%'].contains c) then none
  else (port? port).map fun n => (String.ofList (host.map Char.toLower), n)

/-- Reads an absolute `http` URL.  A fragment is dropped. -/
def parse? (s : String) : Option Url := do
  let s ← afterScheme? (clean s.toList)
  let s := s.takeWhile (· ≠ '#')
  let front := s.takeWhile (· ≠ '?')
  let query := s.drop front.length
  let authority := front.takeWhile fun c => !isSlash c
  let (host, port) ← authority? (withoutUser authority)
  return {
    host, port
    target := String.ofList (writePath (front.drop authority.length) ++
      match query with
      | [] => []
      | q :: r => q :: encodeQuery r) }

end Url
end CommandLine
end Clearance

import Clearance.Json.Basic
/-!
# Quoted — text between quotation marks

Written text escapes only the quotation mark, the backslash and the control characters below the space.  Read text may
use every escape of JSON; characters beyond the basic plane are two `\u` escapes, a high and a low surrogate.  A lone
surrogate is no text, but whoever passes over the string without reading it does not notice.
-/
namespace Clearance
namespace Quoted

/-! ## Writing -/

def hexDigit (n : Nat) : Char := Nat.digitChar n

def escapeChar (c : Char) : List Char :=
  if c = '"' then ['\\', '"']
  else if c = '\\' then ['\\', '\\']
  else if c = '\n' then ['\\', 'n']
  else if c = '\r' then ['\\', 'r']
  else if c = '\t' then ['\\', 't']
  else if c.toNat = 8 then ['\\', 'b']
  else if c.toNat = 12 then ['\\', 'f']
  else if c.toNat < 32 then ['\\', 'u', '0', '0', hexDigit (c.toNat / 16), hexDigit (c.toNat % 16)]
  else [c]

def escape (s : List Char) : List Char := s.flatMap escapeChar

/-- A text with its quotation marks. -/
def write (s : String) : List Char := '"' :: escape s.toList ++ ['"']

/-! ## Reading -/

def hexValue? (c : Char) : Option Nat :=
  if c.isDigit then some (c.toNat - '0'.toNat)
  else if 'a' ≤ c && c ≤ 'f' then some (c.toNat - 'a'.toNat + 10)
  else if 'A' ≤ c && c ≤ 'F' then some (c.toNat - 'A'.toNat + 10)
  else none

/-- The number written by four hexadecimal digits. -/
def unit? (a b c d : Char) : Option Nat := do
  return (((← hexValue? a) * 16 + (← hexValue? b)) * 16 + (← hexValue? c)) * 16 + (← hexValue? d)

def isHigh (n : Nat) : Bool := 0xD800 ≤ n && n ≤ 0xDBFF

def isLow (n : Nat) : Bool := 0xDC00 ≤ n && n ≤ 0xDFFF

/-- The character of a surrogate pair. -/
def ofPair (high low : Nat) : Char := Char.ofNat (0x10000 + (high - 0xD800) * 0x400 + (low - 0xDC00))

/-- A string that was scanned behind its opening mark: the text it stands for, and what follows its closing mark.  A
fault in `rest` ends the scan for everyone; one in `text` alone only for who wants the text. -/
structure Scanned where
  text : Except Fault (List Char)
  rest : Except Fault (List Char)

namespace Scanned

/-- The scan stops here. -/
def stop (f : Fault) : Scanned := ⟨.error f, .error f⟩

def push (c : Char) (s : Scanned) : Scanned := ⟨s.text.map (c :: ·), s.rest⟩

/-- Something that stands for no character was passed over. -/
def spoil (s : Scanned) : Scanned := ⟨.error .malformed, s.rest⟩

end Scanned

/-- Four hexadecimal digits are wanted and the text has fewer characters than that.  The digits are one byte each, so
it is the number of bytes left that decides whether the text ends too soon. -/
def shortUnit (r : List Char) : Fault :=
  if (String.ofList r).utf8ByteSize < 4 then .ended else .malformed

/-- The character of an escape with one letter. -/
def simpleEscape? (c : Char) : Option Char :=
  match c with
  | '"' => some '"' | '\\' => some '\\' | '/' => some '/'
  | 'b' => some (Char.ofNat 8) | 'f' => some (Char.ofNat 12) | 'n' => some '\n' | 'r' => some '\r' | 't' => some '\t'
  | _ => none

/-- A high surrogate before this was not followed by its low one. -/
def Scanned.after (high : Option Nat) (s : Scanned) : Scanned := if high.isSome then s.spoil else s

/-- Reads up to the closing mark; `high` is the high surrogate that stands right before, if one does. -/
def scan (high : Option Nat) : List Char → Scanned
  | [] => .stop .ended
  | '"' :: r => Scanned.after high ⟨.ok [], .ok r⟩
  | '\\' :: [] => .stop .ended
  | '\\' :: 'u' :: a :: b :: c :: d :: r =>
    match unit? a b c d, high with
    | none, _ => .stop .malformed
    | some n, some m => if isLow n then (scan none r).push (ofPair m n) else (scan none r).spoil
    | some n, none =>
      if isLow n then (scan none r).spoil
      else if isHigh n then scan (some n) r
      else (scan none r).push (Char.ofNat n)
  | '\\' :: 'u' :: r => .stop (shortUnit r)
  | '\\' :: c :: r =>
    match simpleEscape? c with
    | some e => ((scan none r).push e).after high
    | none => .stop .malformed
  | c :: r => if c.toNat < 32 then .stop .malformed else ((scan none r).push c).after high

end Quoted
end Clearance

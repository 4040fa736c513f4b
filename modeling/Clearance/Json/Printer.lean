import Clearance.Json.Quoted
import Clearance.Json.Numeral
/-!
# Printer — the two written forms of a value

The compact form has no space at all.  The pretty form puts every item and field on a line of its own, two spaces deeper
than its container; an empty container is the same in both.
-/
namespace Clearance
namespace Json

def writeBool (b : Bool) : List Char := if b then ['t', 'r', 'u', 'e'] else ['f', 'a', 'l', 's', 'e']

mutual

def compact : Json → List Char
  | .null => ['n', 'u', 'l', 'l']
  | .bool b => writeBool b
  | .number n => Numeral.write n
  | .string s => Quoted.write s
  | .array [] => ['[', ']']
  | .array (j :: js) => '[' :: compact j ++ compactItems js
  | .object [] => ['{', '}']
  | .object ((k, j) :: fs) => '{' :: Quoted.write k ++ ':' :: compact j ++ compactFields fs

/-- The items behind the first one, and the bracket. -/
def compactItems : List Json → List Char
  | [] => [']']
  | j :: js => ',' :: compact j ++ compactItems js

/-- The fields behind the first one, and the brace. -/
def compactFields : List (String × Json) → List Char
  | [] => ['}']
  | (k, j) :: fs => ',' :: Quoted.write k ++ ':' :: compact j ++ compactFields fs

end

/-- A new line at the given depth. -/
def newline (depth : Nat) : List Char := '\n' :: List.replicate (2 * depth) ' '

mutual

/-- The pretty form of a value that stands at the given depth. -/
def prettyAt (depth : Nat) : Json → List Char
  | .null => ['n', 'u', 'l', 'l']
  | .bool b => writeBool b
  | .number n => Numeral.write n
  | .string s => Quoted.write s
  | .array [] => ['[', ']']
  | .array (j :: js) => '[' :: newline (depth + 1) ++ prettyAt (depth + 1) j ++ prettyItems depth js
  | .object [] => ['{', '}']
  | .object ((k, j) :: fs) =>
    '{' :: newline (depth + 1) ++ Quoted.write k ++ ':' :: ' ' :: prettyAt (depth + 1) j ++ prettyFields depth fs

def prettyItems (depth : Nat) : List Json → List Char
  | [] => newline depth ++ [']']
  | j :: js => ',' :: newline (depth + 1) ++ prettyAt (depth + 1) j ++ prettyItems depth js

def prettyFields (depth : Nat) : List (String × Json) → List Char
  | [] => newline depth ++ ['}']
  | (k, j) :: fs =>
    ',' :: newline (depth + 1) ++ Quoted.write k ++ ':' :: ' ' :: prettyAt (depth + 1) j ++ prettyFields depth fs

end

def toCompact (j : Json) : String := String.ofList j.compact

def toPretty (j : Json) : String := String.ofList (j.prettyAt 0)

end Json
end Clearance

import Clearance.Text.Blank
import Clearance.Text.Search
import Clearance.Text.WordChar
import Clearance.Route.Fix
/-!
# Route — route texts and their fixes

A route text such as `..OAK.J5.SAC.KRNO` names fixes and airways with dots between them; how many dots does not matter.
A leading `..` means direct from the present position.  Instead of it a route may start with position markers such as
`OAK090012`, a fix with radial and distance, which are no fixes of the route.
-/
namespace Clearance
namespace Route

open Text

def isDot (c : Char) : Bool := c = '.'

/-- What stands between the dots of a text. -/
def tokens (s : List Char) : List (List Char) := pieces isDot s

def isCapital (c : Char) : Bool := 'A' ≤ c && c ≤ 'Z'

/-- Two to five capitals followed by six digits. -/
def isMarker (t : List Char) : Bool :=
  let letters := t.takeWhile isCapital
  let rest := t.dropWhile isCapital
  2 ≤ letters.length && letters.length ≤ 5 && rest.length = 6 && rest.all isDigit

/-- The names of a route: its tokens without the markers in front. -/
def nameTexts (raw : List Char) : List (List Char) := (tokens (trim raw)).dropWhile isMarker

/-- The fixes of a route text, with the positions that the table has. -/
def parse (raw : String) (table : FixTable) : List Fix :=
  (nameTexts raw.toList).map fun t => ⟨String.ofList t, table.get? (String.ofList t)⟩

/-- The text without the destination at its end.  No destination is never at the end. -/
def withoutDestination (route destination : String) : String :=
  if destination.isEmpty then route
  else match dropSuffix? route.toList destination.toList with
    | some s => String.ofList s
    | none => route

/-- The fixes of a route text between present position and destination. -/
def parseTo (raw destination : String) (table : FixTable) : List Fix :=
  parse (withoutDestination raw destination) table

/-- The names with single dots between them. -/
def serialize (fixes : List Fix) : String := String.intercalate "." (Fix.names fixes)

def withoutLeadingDots (route : String) : String := String.ofList (route.toList.dropWhile isDot)

/-- The form in which a route is sent to the flight data server: the tokens with single spaces between them. -/
def amendmentText (route : String) : String :=
  String.ofList (trim (List.intercalate [' '] (tokens route.toList)))

example : tokens "..OAK.J5...SAC.".toList = ["OAK".toList, "J5".toList, "SAC".toList] := by decide
example : isMarker "OAK090012".toList = true ∧ isMarker "OAK".toList = false := by decide +kernel

end Route
end Clearance

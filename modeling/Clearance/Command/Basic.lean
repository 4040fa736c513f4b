import Clearance.Text.Blank
import Clearance.Text.Uppercase
import Clearance.Text.WordChar
/-!
# Command — a typed message, taken apart

The words of a message are read in capitals.  The first one is the verb, the others are its arguments.  The verb `//`
may be typed together with its argument: `//N123` is `// N123`, and whatever follows it is ignored.
-/
namespace Clearance

structure Command where
  verb : String
  args : List String
  /-- The message as it was typed. -/
  raw : String
  deriving DecidableEq, Repr

namespace Command

open Text

/-- The verb that toggles the VCI mark of a flight. -/
def vciVerb : String := "//"

/-- Whether a word is the verb `//` with its argument. -/
def isShorthand : List Char → Bool
  | '/' :: '/' :: c :: _ => isWordChar c
  | _ => false

/-- The verb and the arguments of words in capitals. -/
def ofWords (raw : String) : List (List Char) → Command
  | [] => ⟨"", [], raw⟩
  | first :: rest =>
    if isShorthand first then ⟨vciVerb, [String.ofList (first.drop 2)], raw⟩
    else ⟨String.ofList first, rest.map String.ofList, raw⟩

def parse (text : String) : Command := ofWords text ((words text.toList).map upper)

def arity (c : Command) : Nat := c.args.length

def arg? (c : Command) (n : Nat) : Option String := c.args[n]?

end Command
end Clearance

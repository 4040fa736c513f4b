import Clearance.Interpreter.Dispatch
/-!
# ComposeArea — the line in which messages are typed

Nothing is interpreted before the line is submitted.  Submitting empties the line, whether the command is accepted or
not.
-/
namespace Clearance

structure ComposeArea where
  text : String
  deriving DecidableEq, Repr

/-- What the response area shows after the line was submitted. -/
inductive Submission where
  /-- An empty line blanks the response area. -/
  | cleared
  | answered (response : Response)
  deriving BEq, Repr

namespace ComposeArea

def empty : ComposeArea := ⟨""⟩

instance : Inhabited ComposeArea := ⟨empty⟩

def push (a : ComposeArea) (text : String) : ComposeArea := ⟨a.text ++ text⟩

/-- Interprets the text of the line and empties it. -/
def submit (a : ComposeArea) (i : Interpreter) (flights : List Flight) (context : Context) :
    Submission × ComposeArea :=
  (if a.text.isEmpty then .cleared else .answered (i.interpret a.text flights context), empty)

end ComposeArea
end Clearance

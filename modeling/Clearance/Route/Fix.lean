import Clearance.Text.Sorted
import Clearance.Text.Uppercase
/-!
# Fix — named points of a route, and where they are

A route is flown along fixes.  Their positions come from a table; a name that the table does not have is a fix without
a position.
-/
namespace Clearance

/-- Degrees north and east. -/
structure Position where
  lat : Float
  lon : Float
  deriving BEq, Repr

instance : Inhabited Position := ⟨⟨0, 0⟩⟩

structure Fix where
  name : String
  position : Option Position
  deriving BEq, Repr

instance : Inhabited Fix := ⟨⟨"", none⟩⟩

namespace Fix

def names (fixes : List Fix) : List String := fixes.map (·.name)

end Fix

/-- Positions by name, sorted by name. -/
structure FixTable where
  entries : List (String × Position)
  sorted : Text.SortedBy (·.1) entries
  deriving Repr

namespace FixTable

def empty : FixTable := ⟨[], .nil⟩

instance : Inhabited FixTable := ⟨empty⟩

/-- Enters a name as it is written; an earlier position of it is lost. -/
def set (t : FixTable) (name : String) (p : Position) : FixTable :=
  ⟨Text.place (·.1) (name, p) t.entries, Text.sortedBy_place _ _ t.sorted⟩

/-- Enters a name in capitals. -/
def insert (t : FixTable) (name : String) (p : Position) : FixTable := t.set (Text.capitals name) p

/-- The position of a name.  The name has to be written as it was entered. -/
def get? (t : FixTable) (name : String) : Option Position := t.entries.lookup name

def size (t : FixTable) : Nat := t.entries.length

def isEmpty (t : FixTable) : Bool := t.entries.isEmpty

def ofList (es : List (String × Position)) : FixTable := es.foldl (fun t e => t.insert e.1 e.2) empty

theorem lookup_head (name n : String) (p : Position) (es : List (String × Position)) :
    ((name, p) :: es).lookup n = if n = name then some p else es.lookup n := by
  rw [List.lookup_cons]
  by_cases h : n = name
  · simp [h]
  · rw [if_neg h, show (n == name) = false by simpa using h]

theorem lookup_place (name n : String) (p : Position) :
    ∀ es : List (String × Position),
      (Text.place (·.1) (name, p) es).lookup n = if n = name then some p else es.lookup n
  | [] => lookup_head name n p []
  | (k, q) :: es => by
    unfold Text.place
    split
    · exact lookup_head name n p _
    · split
      · rename_i hk
        obtain rfl : name = k := hk
        rw [lookup_head, lookup_head]
        split <;> rfl
      · rename_i hk
        rw [lookup_head, lookup_head, lookup_place name n p es]
        by_cases hn : n = k
        · subst hn; simp [Ne.symm (a := name) hk]
        · simp [hn]

/-- **A table finds what was entered last under a name**, and everything else as before. -/
theorem get?_set (t : FixTable) (name n : String) (p : Position) :
    (t.set name p).get? n = if n = name then some p else t.get? n :=
  lookup_place name n p t.entries

end FixTable
end Clearance

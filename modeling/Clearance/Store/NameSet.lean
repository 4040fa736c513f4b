import Clearance.Text.Sorted
/-!
# NameSet — sets of names, listed in order

The names stand in ascending order of their code points, each once, so that two sets with the same names are equal.
-/
namespace Clearance

structure NameSet where
  names : List String
  sorted : Text.SortedBy id names
  deriving DecidableEq, Repr

namespace NameSet

def empty : NameSet := ⟨[], .nil⟩

instance : Inhabited NameSet := ⟨empty⟩

instance : Membership String NameSet := ⟨fun s n => n ∈ s.names⟩

instance (n : String) (s : NameSet) : Decidable (n ∈ s) := inferInstanceAs (Decidable (n ∈ s.names))

def insert (s : NameSet) (n : String) : NameSet := ⟨Text.place id n s.names, Text.sortedBy_place id n s.sorted⟩

def erase (s : NameSet) (n : String) : NameSet := ⟨s.names.filter (· != n), s.sorted.filter _⟩

/-- Takes a name out that is in the set, and puts one in that is not. -/
def toggle (s : NameSet) (n : String) : NameSet := if n ∈ s then s.erase n else s.insert n

theorem mem_insert {s : NameSet} {n k : String} : k ∈ s.insert n ↔ k = n ∨ k ∈ s := by
  refine (Text.mem_place s.sorted).trans ⟨fun h => h.imp_right And.left, fun h => ?_⟩
  rcases Classical.em (k = n) with hk | hk
  · exact .inl hk
  · exact h.imp_right fun h => ⟨h, hk⟩

theorem mem_erase {s : NameSet} {n k : String} : k ∈ s.erase n ↔ k ∈ s ∧ k ≠ n := by
  show k ∈ s.names.filter (· != n) ↔ k ∈ s.names ∧ k ≠ n
  simp

/-- **Toggling changes whether the name is in the set**, and nothing else. -/
theorem mem_toggle {s : NameSet} {n k : String} : k ∈ s.toggle n ↔ if k = n then k ∉ s else k ∈ s := by
  unfold toggle
  split <;> by_cases h : k = n <;> simp_all [mem_insert, mem_erase]

end NameSet
end Clearance

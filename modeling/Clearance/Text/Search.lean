/-!
# Search — the first occurrence of one text in another

Offsets count characters.  The empty text occurs at the start of every text.
-/
namespace Clearance
namespace Text

/-- The offset of the first occurrence of `needle`, or `none`. -/
def find? (needle : List Char) : List Char → Option Nat
  | [] => if needle.isEmpty then some 0 else none
  | c :: cs => if needle.isPrefixOf (c :: cs) then some 0 else (find? needle cs).map (· + 1)

/-- Whether `needle` occurs somewhere in the text. -/
def contains (s needle : List Char) : Bool := (find? needle s).isSome

/-- The text without `tail` at its end, or `none` if it does not end so. -/
def dropSuffix? (s tail : List Char) : Option (List Char) :=
  if tail.isSuffixOf s then some (s.take (s.length - tail.length)) else none

theorem find?_nil_left : ∀ s, find? [] s = some 0
  | [] => rfl
  | _ :: _ => rfl

/-- **An offset that is found marks an occurrence**: the text from there on starts with `needle`. -/
theorem isPrefixOf_drop_of_find? {needle : List Char} :
    ∀ {s : List Char} {n : Nat}, find? needle s = some n → needle.isPrefixOf (s.drop n) = true
  | [], n, h => by
    simp only [find?] at h
    split at h
    · rename_i he; simp only [List.isEmpty_iff] at he; subst he; simp
    · cases h
  | c :: cs, n, h => by
    simp only [find?] at h
    split at h
    · rename_i hp; cases h; exact hp
    · obtain ⟨m, hm, rfl⟩ := Option.map_eq_some_iff.1 h
      simpa using isPrefixOf_drop_of_find? hm

example : find? "AC".toList "SAC.AC".toList = some 1 := by decide
example : dropSuffix? "OAK.KRNO".toList "KRNO".toList = some "OAK.".toList := by decide

end Text
end Clearance

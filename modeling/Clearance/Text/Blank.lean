/-!
# Blank — white space, trimming, and cutting a text into pieces

`segments` cuts at every separator and keeps the empty stretches between two of them; `pieces` drops those.  The
words of a message are the pieces between blanks, the tokens of a route the pieces between dots.
-/
namespace Clearance
namespace Text

/-- The runs of code points with the Unicode property White_Space, 25 characters in all. -/
def blankRuns : List (Nat × Nat) :=
  [(0x9, 0xD), (0x20, 0x20), (0x85, 0x85), (0xA0, 0xA0), (0x1680, 0x1680), (0x2000, 0x200A), (0x2028, 0x2029),
   (0x202F, 0x202F), (0x205F, 0x205F), (0x3000, 0x3000)]

/-- Whether a code point lies in one of the runs, both ends included. -/
def inRuns (runs : List (Nat × Nat)) (n : Nat) : Bool := runs.any (fun r => r.1 ≤ n && n ≤ r.2)

def isBlank (c : Char) : Bool := inRuns blankRuns c.toNat

/-- A text without its last characters, as long as these satisfy `p`. -/
def dropEndWhile (p : Char → Bool) (s : List Char) : List Char := (s.reverse.dropWhile p).reverse

/-- A text without the blanks at its two ends. -/
def trim (s : List Char) : List Char := dropEndWhile isBlank (s.dropWhile isBlank)

/-- Cuts a text at every character that `p` accepts.  There is always one segment more than there are cuts. -/
def segments (p : Char → Bool) : List Char → List (List Char)
  | [] => [[]]
  | c :: cs =>
    if p c then [] :: segments p cs
    else match segments p cs with
      | [] => [[c]]
      | s :: ss => (c :: s) :: ss

/-- The non-empty segments, in order: the longest stretches that hold no separator. -/
def pieces (p : Char → Bool) (s : List Char) : List (List Char) := (segments p s).filter (fun t => !t.isEmpty)

/-- The words of a text: what stands between blanks. -/
def words (s : List Char) : List (List Char) := pieces isBlank s

theorem segments_ne_nil (p : Char → Bool) : ∀ s, segments p s ≠ []
  | [] => by simp [segments]
  | c :: cs => by
    unfold segments
    split
    · simp
    · split <;> simp

/-- Every character that core counts as white space is blank. -/
theorem isBlank_of_isWhitespace (c : Char) (h : c.isWhitespace = true) : isBlank c = true := by
  simp only [Char.isWhitespace, Bool.or_eq_true, decide_eq_true_eq] at h
  rcases h with ((rfl | rfl) | rfl) | rfl <;> decide

example : (blankRuns.map (fun r => r.2 + 1 - r.1)).sum = 25 := by decide
example : words " QU  OAK\tN123 ".toList = ["QU".toList, "OAK".toList, "N123".toList] := by decide

end Text
end Clearance

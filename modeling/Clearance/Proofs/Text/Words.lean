import Clearance.Command.Basic
import Clearance.Proofs.Text.Capitals
import Clearance.Proofs.Text.Segments
/-!
# Words — what a message of single words is read as

A word holds no blank, so a message that is typed as words with single blanks between them has these words, and a word
in capitals is read as it is written.  The words of any message are such words once they are in capitals
(`isWord_upper`).
-/
namespace Clearance
namespace Text

/-- A word that a message can have as it is read: it is not empty, holds no blank and is in capitals. -/
structure IsWord (w : String) : Prop where
  nonempty : w.toList ≠ []
  solid : ∀ c ∈ w.toList, isBlank c = false
  capital : upper w.toList = w.toList

instance (w : String) : Decidable (IsWord w) :=
  decidable_of_iff (w.toList ≠ [] ∧ (w.toList.all fun c => !isBlank c) = true ∧ upper w.toList = w.toList)
    ⟨fun h => ⟨h.1, by simpa using h.2.1, h.2.2⟩, fun h => ⟨h.nonempty, by simpa using h.solid, h.capital⟩⟩

/-- **The words of a message begin with its first one.** -/
theorem words_append_blank {w : List Char} (hne : w ≠ []) (h : ∀ c ∈ w, isBlank c = false) (s : List Char) :
    words (w ++ ' ' :: s) = w :: words s := by
  rw [words, pieces_append_cut (by decide), pieces_of_forall hne h]
  rfl

/-- **Words with single blanks between them are read as these words.** -/
theorem words_intercalate {ws : List (List Char)} (h : ∀ w ∈ ws, w ≠ [] ∧ ∀ c ∈ w, isBlank c = false) :
    words (List.intercalate [' '] ws) = ws :=
  pieces_intercalate (by decide) h

theorem isWord_upper {w s : List Char} (h : w ∈ words s) : IsWord (String.ofList (upper w)) := by
  obtain ⟨hne, hsolid⟩ := of_mem_pieces h
  refine ⟨?_, ?_, ?_⟩ <;> rw [String.toList_ofList]
  · exact upper_ne_nil hne
  · exact solid_upper hsolid
  · exact upper_upper w

end Text

namespace Command

open Text

/-- **A message of single words is read as it is typed.** -/
theorem parse_intercalate {ws : List String} (h : ∀ w ∈ ws, IsWord w) :
    parse (String.intercalate " " ws) = ofWords (String.intercalate " " ws) (ws.map String.toList) := by
  have hwords : words (String.intercalate " " ws).toList = ws.map String.toList := by
    rw [String.toList_intercalate]
    refine words_intercalate fun w hw => ?_
    obtain ⟨t, ht, rfl⟩ := List.mem_map.1 hw
    exact ⟨(h t ht).nonempty, (h t ht).solid⟩
  rw [parse, hwords, List.map_map]
  refine congrArg (ofWords _) (List.map_congr_left fun w hw => ?_)
  exact (h w hw).capital

/-- **A typed clearance is read as it is typed.** -/
theorem parse_clearance {fix fid : String} (hfix : IsWord fix) (hfid : IsWord fid) :
    parse ("QU " ++ fix ++ " " ++ fid) = ⟨"QU", [fix, fid], "QU " ++ fix ++ " " ++ fid⟩ := by
  have htext : "QU " ++ fix ++ " " ++ fid = String.intercalate " " ["QU", fix, fid] := by
    simp [← String.toList_inj]
  have hverb : IsWord "QU" := by decide +kernel
  rw [htext, parse_intercalate (List.forall_mem_cons.2 ⟨hverb, List.forall_mem_cons.2 ⟨hfix,
    List.forall_mem_singleton.2 hfid⟩⟩)]
  simp [ofWords, isShorthand]

end Command
end Clearance

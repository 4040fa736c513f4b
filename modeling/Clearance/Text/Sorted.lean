/-!
# Sorted — lists in the order of a text

A sorted list holds at most one element for each text.  `place` puts an element where it belongs; the element that had
its text before is lost.  So there is one list for each collection of elements, in whatever order they were placed.
-/
namespace Clearance
namespace Text

variable {α : Type}

/-- Ascending by `key`, in the order of code points, and each key once. -/
abbrev SortedBy (key : α → String) (l : List α) : Prop := l.Pairwise fun a b => key a < key b

def place (key : α → String) (a : α) : List α → List α
  | [] => [a]
  | b :: bs =>
    if key a < key b then a :: b :: bs
    else if key a = key b then a :: bs
    else b :: place key a bs

theorem lt_of_not_lt_of_ne {s t : String} (h : ¬s < t) (hne : s ≠ t) : t < s := by
  rcases Classical.em (t < s) with hlt | hlt
  · exact hlt
  · exact absurd (String.le_antisymm (String.not_lt.1 hlt) (String.not_lt.1 h)) hne

/-- **Placing replaces what has the same key and keeps everything else.** -/
theorem mem_place {key : α → String} {a c : α} :
    ∀ {l : List α}, SortedBy key l → (c ∈ place key a l ↔ c = a ∨ (c ∈ l ∧ key c ≠ key a))
  | [], _ => by simp [place]
  | b :: bs, h => by
    have hb := List.pairwise_cons.1 h
    unfold place
    split
    · rename_i hab
      rw [List.mem_cons]
      refine or_congr_right ⟨fun hc => ⟨hc, ?_⟩, fun hc => hc.1⟩
      rcases List.mem_cons.1 hc with rfl | hc
      · exact fun he => String.lt_irrefl _ (he ▸ hab)
      · exact fun he => String.lt_irrefl _ (String.lt_trans hab (he ▸ hb.1 c hc))
    · split
      · rename_i hab
        rw [List.mem_cons, List.mem_cons]
        refine or_congr_right ⟨fun hc => ⟨.inr hc, fun he => ?_⟩, fun hc => hc.1.resolve_left ?_⟩
        · exact String.lt_irrefl _ ((he.trans hab) ▸ hb.1 c hc)
        · rintro rfl; exact hc.2 hab.symm
      · rename_i hlt hne
        rw [List.mem_cons, List.mem_cons, mem_place hb.2]
        constructor
        · rintro (rfl | rfl | ⟨hc, hk⟩)
          · exact .inr ⟨.inl rfl, Ne.symm hne⟩
          · exact .inl rfl
          · exact .inr ⟨.inr hc, hk⟩
        · rintro (rfl | ⟨rfl | hc, hk⟩)
          · exact .inr (.inl rfl)
          · exact .inl rfl
          · exact .inr (.inr ⟨hc, hk⟩)

theorem sortedBy_place (key : α → String) (a : α) : ∀ {l : List α}, SortedBy key l → SortedBy key (place key a l)
  | [], _ => by simp [place]
  | b :: bs, h => by
    have hb := List.pairwise_cons.1 h
    unfold place
    split
    · rename_i hab
      refine List.pairwise_cons.2 ⟨fun c hc => ?_, h⟩
      rcases List.mem_cons.1 hc with rfl | hc
      · exact hab
      · exact String.lt_trans hab (hb.1 c hc)
    · split
      · rename_i hab
        exact List.pairwise_cons.2 ⟨fun c hc => hab ▸ hb.1 c hc, hb.2⟩
      · rename_i hlt hne
        refine List.pairwise_cons.2 ⟨fun c hc => ?_, sortedBy_place key a hb.2⟩
        rcases (mem_place hb.2).1 hc with rfl | hc
        · exact lt_of_not_lt_of_ne hlt hne
        · exact hb.1 c hc.1

/-- An element above all others goes to the end. -/
theorem place_of_forall_lt {key : α → String} {a : α} :
    ∀ {l : List α}, (∀ b ∈ l, key b < key a) → place key a l = l ++ [a]
  | [], _ => rfl
  | b :: bs, h => by
    have hb := h b (by simp)
    unfold place
    rw [if_neg fun hab => String.lt_irrefl _ (String.lt_trans hb hab), if_neg fun he => String.lt_irrefl _ (he ▸ hb),
      place_of_forall_lt fun c hc => h c (by simp [hc])]
    rfl

end Text
end Clearance

import Clearance.Proofs.Text.Segments
import Mathlib.Data.List.TakeWhile
/-!
# Trimmed — texts without blanks at their ends

Trimming makes such a text of any other (`trimmed_trim`), and from one with blanks put around it takes just these
(`trim_surrounded`).  Pieces with separators between them are such a text exactly when the first piece begins and the
last one ends without a blank.
-/
namespace Clearance
namespace Text

/-- A text that neither begins nor ends with a blank. -/
structure Trimmed (s : List Char) : Prop where
  front : ∀ c ∈ s.head?, isBlank c = false
  back : ∀ c ∈ s.getLast?, isBlank c = false

theorem trimmed_iff_all {s : List Char} : Trimmed s ↔
    (s.head?.all fun c => !isBlank c) = true ∧ (s.getLast?.all fun c => !isBlank c) = true := by
  simp only [Option.all_eq_true, Bool.not_eq_true']
  exact ⟨fun h => ⟨h.front, h.back⟩, fun h => ⟨h.1, h.2⟩⟩

instance (s : List Char) : Decidable (Trimmed s) := decidable_of_iff' _ trimmed_iff_all

variable {s t before after : List Char} {p : Char → Bool}

theorem forall_not_isBlank_iff : (∀ c ∈ s, isBlank c = false) ↔ (s.all fun c => !isBlank c) = true := by
  simp

theorem dropWhile_of_head? {α : Type} {q : α → Bool} {l : List α} (h : ∀ a ∈ l.head?, q a = false) :
    l.dropWhile q = l := by
  cases l with
  | nil => rfl
  | cons a l => rw [List.dropWhile_cons, h a rfl, if_neg Bool.false_ne_true]

theorem dropEndWhile_of_getLast? (h : ∀ c ∈ s.getLast?, p c = false) : dropEndWhile p s = s := by
  rw [dropEndWhile, dropWhile_of_head? (by rwa [List.head?_reverse]), List.reverse_reverse]

theorem dropEndWhile_eq_nil (h : ∀ c ∈ s, p c = true) : dropEndWhile p s = [] := by
  rw [dropEndWhile, List.dropWhile_eq_nil_iff.2 (by simpa using h)]
  rfl

theorem Trimmed.trim_eq (h : Trimmed s) : trim s = s := by
  rw [trim, dropWhile_of_head? h.front, dropEndWhile_of_getLast? h.back]

/-- **Blanks around a text are all that trimming takes away.** -/
theorem exists_surrounding (s : List Char) : ∃ before after, s = before ++ (trim s ++ after) ∧
    (∀ c ∈ before, isBlank c = true) ∧ ∀ c ∈ after, isBlank c = true := by
  refine ⟨s.takeWhile isBlank, ((s.dropWhile isBlank).reverse.takeWhile isBlank).reverse, ?_,
    List.all_eq_true.1 List.all_takeWhile, fun c hc => ?_⟩
  · rw [trim, dropEndWhile, ← List.reverse_append, List.takeWhile_append_dropWhile, List.reverse_reverse,
      List.takeWhile_append_dropWhile]
  · exact List.all_eq_true.1 List.all_takeWhile c (List.mem_reverse.1 hc)

theorem trimmed_trim (s : List Char) : Trimmed (trim s) := by
  constructor
  · intro c hc
    obtain ⟨r, hr⟩ := List.head?_eq_some_iff.1 hc
    exact not_isBlank_of_trim hr
  · intro c hc
    rw [trim, dropEndWhile, List.getLast?_reverse] at hc
    exact of_mem_head?_dropWhile hc

/-- **A trimmed text is what is left of it with blanks around it.** -/
theorem trim_surrounded (hbefore : ∀ c ∈ before, isBlank c = true) (hafter : ∀ c ∈ after, isBlank c = true)
    (h : Trimmed s) : trim (before ++ (s ++ after)) = s := by
  have hend : ∀ u, dropEndWhile isBlank (u ++ after) = dropEndWhile isBlank u :=
    dropEndWhile_append_of_eq_nil (dropEndWhile_eq_nil hafter)
  rw [trim, List.dropWhile_append_of_pos hbefore]
  cases s with
  | nil =>
    rw [List.nil_append, List.dropWhile_eq_nil_iff.2 hafter]
    rfl
  | cons c s =>
    rw [dropWhile_of_head? (l := c :: s ++ after) fun d hd => h.front d hd, hend, dropEndWhile_of_getLast? h.back]

theorem trim_blanks_around (hbefore : ∀ c ∈ before, isBlank c = true) (hafter : ∀ c ∈ after, isBlank c = true)
    (s : List Char) : trim (before ++ (s ++ after)) = trim s := by
  obtain ⟨front, back, hs, hfront, hback⟩ := exists_surrounding s
  have hall : before ++ (s ++ after) = (before ++ front) ++ (trim s ++ (back ++ after)) := by
    conv => lhs; rw [hs]
    simp only [List.append_assoc]
  rw [hall]
  exact trim_surrounded (List.forall_mem_append.2 ⟨hbefore, hfront⟩) (List.forall_mem_append.2 ⟨hback, hafter⟩)
    (trimmed_trim s)

/-! ## Pieces -/

theorem prefix_intercalate {sep : List Char} {ts : List (List Char)} (h : ts.head? = some t) :
    t <+: List.intercalate sep ts := by
  obtain ⟨rest, rfl⟩ := List.head?_eq_some_iff.1 h
  cases rest with
  | nil => exact List.intercalate_singleton ▸ List.prefix_refl t
  | cons u rest =>
    rw [List.intercalate_cons_cons, List.append_assoc]
    exact List.prefix_append _ _

theorem suffix_intercalate {sep : List Char} : ∀ {ts : List (List Char)}, ts.getLast? = some t →
    t <:+ List.intercalate sep ts
  | [u], h => by
    obtain rfl : u = t := Option.some.inj h
    exact List.intercalate_singleton ▸ List.suffix_refl u
  | u :: v :: ts, h => by
    rw [List.getLast?_cons_cons] at h
    rw [List.intercalate_cons_cons]
    exact (suffix_intercalate h).trans (List.suffix_append _ _)

theorem head?_of_prefix (h : t <+: s) (hne : t ≠ []) : s.head? = t.head? := by
  obtain ⟨r, rfl⟩ := h
  obtain ⟨c, t, rfl⟩ := List.exists_cons_of_ne_nil hne
  rfl

theorem getLast?_of_suffix (h : t <:+ s) (hne : t ≠ []) : s.getLast? = t.getLast? := by
  rw [← List.head?_reverse, ← List.head?_reverse]
  exact head?_of_prefix (List.reverse_prefix.2 h) (mt List.reverse_eq_nil_iff.1 hne)

/-- **Pieces make a trimmed text** when the first one begins without a blank and the last one ends without one. -/
theorem trimmed_intercalate_iff {sep : List Char} {ts : List (List Char)} (h : ∀ t ∈ ts, t ≠ []) :
    Trimmed (List.intercalate sep ts) ↔ (∀ t ∈ ts.head?, ∀ c ∈ t.head?, isBlank c = false) ∧
      ∀ t ∈ ts.getLast?, ∀ c ∈ t.getLast?, isBlank c = false := by
  have hfront : ∀ t ∈ ts.head?, (List.intercalate sep ts).head? = t.head? := fun t ht =>
    head?_of_prefix (prefix_intercalate ht) (h t (List.mem_of_mem_head? ht))
  have hback : ∀ t ∈ ts.getLast?, (List.intercalate sep ts).getLast? = t.getLast? := fun t ht =>
    getLast?_of_suffix (suffix_intercalate ht) (h t (List.mem_of_getLast? ht))
  constructor
  · intro htrimmed
    exact ⟨fun t ht => hfront t ht ▸ htrimmed.front, fun t ht => hback t ht ▸ htrimmed.back⟩
  · rintro ⟨hf, hb⟩
    cases ts with
    | nil => exact ⟨fun c hc => (nomatch hc), fun c hc => (nomatch hc)⟩
    | cons t rest =>
      obtain ⟨u, hu⟩ := Option.isSome_iff_exists.1 (List.getLast?_isSome.2 (List.cons_ne_nil t rest))
      exact ⟨hfront t rfl ▸ hf t rfl, hback u hu ▸ hb u hu⟩

end Text
end Clearance

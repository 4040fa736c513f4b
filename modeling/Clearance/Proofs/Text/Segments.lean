import Clearance.Text.Blank
/-!
# Segments — where the segments of a text stand

`placed` gives the segments of a text their offsets, and `segments_of_placed` says what an offset means: the text falls
apart there, behind a separator, into a part with the earlier segments and a part with the later ones.  For the pieces
`exists_append_of_pieces` says the same.  The other lemmas are about cutting an appended text (`pieces_append`), about
what the pieces hold (`flatten_pieces`) and about trimming (`dropEndWhile_of_append`).
-/
namespace Clearance
namespace Text

/-- The stretches that follow each other from an offset on, one character apart, with their offsets. -/
def placed : Nat → List (List Char) → List (Nat × List Char)
  | _, [] => []
  | n, s :: ss => (n, s) :: placed (n + s.length + 1) ss

theorem map_placed : ∀ (ss : List (List Char)) (n : Nat), (placed n ss).map (·.2) = ss
  | [], _ => rfl
  | s :: ss, n => by rw [placed, List.map_cons, map_placed ss]

theorem le_of_mem_placed {n : Nat} {t : List Char} : ∀ {ss : List (List Char)} {k : Nat}, (n, t) ∈ placed k ss → k ≤ n
  | [], _, h => by cases h
  | s :: ss, k, h => by
    rw [placed, List.mem_cons] at h
    rcases h with h | h
    · cases h
      exact Nat.le_refl _
    · have := le_of_mem_placed h
      omega

section
variable {p : Char → Bool} {c : Char}

theorem segments_cons_cut (hc : p c = true) (s : List Char) : segments p (c :: s) = [] :: segments p s := by
  rw [segments, if_pos hc]

theorem segments_cons_keep (hc : p c = false) {s t : List Char} {ts : List (List Char)}
    (hs : segments p s = t :: ts) : segments p (c :: s) = (c :: t) :: ts := by
  rw [segments, if_neg (by rw [hc]; exact Bool.false_ne_true), hs]

theorem exists_segments_eq_cons (p : Char → Bool) (s : List Char) : ∃ t ts, segments p s = t :: ts :=
  List.exists_cons_of_ne_nil (segments_ne_nil p s)

theorem not_cut_of_mem_segments : ∀ {s t : List Char}, t ∈ segments p s → ∀ c ∈ t, p c = false
  | [], t, ht, c, hc => by
    rw [segments, List.mem_singleton] at ht
    rw [ht] at hc; cases hc
  | a :: s, t, ht, c, hc => by
    cases ha : p a with
    | true =>
      rw [segments_cons_cut ha, List.mem_cons] at ht
      rcases ht with rfl | ht
      · cases hc
      · exact not_cut_of_mem_segments ht c hc
    | false =>
      obtain ⟨u, us, hs⟩ := exists_segments_eq_cons p s
      rw [segments_cons_keep ha hs, List.mem_cons] at ht
      rcases ht with rfl | ht
      · rcases List.mem_cons.1 hc with rfl | hc
        · exact ha
        · exact not_cut_of_mem_segments (by rw [hs]; exact List.mem_cons_self) c hc
      · exact not_cut_of_mem_segments (by rw [hs]; exact List.mem_cons_of_mem _ ht) c hc

/-- **A separator ends the segments in front of it.** -/
theorem segments_append_cut (hc : p c = true) (b : List Char) :
    ∀ a, segments p (a ++ c :: b) = segments p a ++ segments p b
  | [] => segments_cons_cut hc b
  | x :: a => by
    have ih := segments_append_cut hc b a
    cases hx : p x with
    | true => rw [List.cons_append, segments_cons_cut hx, segments_cons_cut hx, ih, List.cons_append]
    | false =>
      obtain ⟨t, ts, ha⟩ := exists_segments_eq_cons p a
      rw [ha, List.cons_append] at ih
      rw [List.cons_append, segments_cons_keep hx ih, segments_cons_keep hx ha, List.cons_append]

/-- **A separator ends the pieces in front of it.** -/
theorem pieces_append_cut (hc : p c = true) (a b : List Char) : pieces p (a ++ c :: b) = pieces p a ++ pieces p b := by
  rw [pieces, segments_append_cut hc, List.filter_append]
  rfl

theorem segments_of_forall : ∀ {s : List Char}, (∀ c ∈ s, p c = false) → segments p s = [s]
  | [], _ => rfl
  | c :: s, h => by
    rw [List.forall_mem_cons] at h
    exact segments_cons_keep h.1 (segments_of_forall h.2)

theorem pieces_of_forall {s : List Char} (hne : s ≠ []) (h : ∀ c ∈ s, p c = false) : pieces p s = [s] := by
  rw [pieces, segments_of_forall h]
  simp [hne]

theorem of_mem_pieces {s t : List Char} (h : t ∈ pieces p s) : t ≠ [] ∧ ∀ c ∈ t, p c = false := by
  obtain ⟨hmem, hne⟩ := List.mem_filter.1 h
  refine ⟨fun hnil => ?_, not_cut_of_mem_segments hmem⟩
  rw [hnil] at hne
  cases hne

/-- **Pieces with single separators between them are these pieces.** -/
theorem pieces_intercalate (hc : p c = true) : ∀ {ts : List (List Char)}, (∀ t ∈ ts, t ≠ [] ∧ ∀ d ∈ t, p d = false) →
    pieces p (List.intercalate [c] ts) = ts
  | [], _ => rfl
  | [t], h => by
    obtain ⟨hne, hkeep⟩ := h t List.mem_cons_self
    rw [List.intercalate_singleton, pieces_of_forall hne hkeep]
  | t :: u :: ts, h => by
    rw [List.forall_mem_cons] at h
    rw [List.intercalate_cons_cons, List.append_assoc, List.singleton_append, pieces_append_cut hc,
      pieces_of_forall h.1.1 h.1.2, pieces_intercalate hc h.2, List.singleton_append]

theorem flatten_segments (p : Char → Bool) : ∀ s, (segments p s).flatten = s.filter fun c => !p c
  | [] => rfl
  | c :: s => by
    have ih := flatten_segments p s
    cases hc : p c with
    | true => rw [segments_cons_cut hc, List.flatten_cons, ih, List.filter_cons_of_neg (by simp [hc])]; rfl
    | false =>
      obtain ⟨t, ts, hs⟩ := exists_segments_eq_cons p s
      rw [hs, List.flatten_cons] at ih
      rw [segments_cons_keep hc hs, List.flatten_cons, List.filter_cons_of_pos (by simp [hc]), ← ih]
      rfl

/-- **The pieces hold what is no separator.** -/
theorem flatten_pieces (p : Char → Bool) (s : List Char) : (pieces p s).flatten = s.filter fun c => !p c := by
  rw [pieces, List.flatten_filter_not_isEmpty, flatten_segments]

end

/-! ## Cuts -/

/-- Whether a text is empty or ends with a separator, so that the next character starts a segment. -/
def EndsWithCut (p : Char → Bool) (a : List Char) : Prop := ∀ c, a.getLast? = some c → p c = true

namespace EndsWithCut

variable {p : Char → Bool} {a b : List Char}

theorem nil : EndsWithCut p [] := fun _ h => nomatch h

theorem cons {c : Char} (hc : a = [] → p c = true) (h : EndsWithCut p a) : EndsWithCut p (c :: a) := by
  intro d hd
  cases a with
  | nil =>
    cases hd
    exact hc rfl
  | cons x a =>
    rw [List.getLast?_cons_cons] at hd
    exact h d hd

theorem of_suffix (h : EndsWithCut p a) (hba : b <:+ a) : EndsWithCut p b := by
  intro c hc
  obtain ⟨u, rfl⟩ := hba
  cases b with
  | nil => cases hc
  | cons x b =>
    refine h c ?_
    rw [List.getLast?_append, hc]
    rfl

theorem eq_nil_or_concat (h : EndsWithCut p a) : a = [] ∨ ∃ u c, p c = true ∧ a = u ++ [c] := by
  rcases List.eq_nil_or_concat a with ha | ⟨u, c, ha⟩
  · exact .inl ha
  · rw [List.concat_eq_append] at ha
    refine .inr ⟨u, c, h c ?_, ha⟩
    rw [ha, List.getLast?_append]
    rfl

end EndsWithCut

section
variable {p : Char → Bool} {a : List Char}

/-- **Behind a separator the pieces start anew.** -/
theorem pieces_append (h : EndsWithCut p a) (b : List Char) : pieces p (a ++ b) = pieces p a ++ pieces p b := by
  rcases h.eq_nil_or_concat with rfl | ⟨u, c, hc, rfl⟩
  · rfl
  · have hend : segments p (u ++ [c]) = segments p u ++ [[]] := segments_append_cut hc [] u
    unfold pieces
    rw [hend, List.append_assoc, List.singleton_append, segments_append_cut hc, List.filter_append,
      List.filter_append]
    simp

/-- **What an offset of a segment means.**  The text falls apart at it, behind a separator; the rest starts with the
segment and has the later segments after it. -/
theorem segments_of_placed {n : Nat} {t : List Char} {after : List (Nat × List Char)} :
    ∀ {s : List Char} {k : Nat} {before : List (Nat × List Char)},
      placed k (segments p s) = before ++ (n, t) :: after →
      ∃ a b, s = a ++ (t ++ b) ∧ n = k + a.length ∧ EndsWithCut p a ∧ segments p (t ++ b) = t :: after.map (·.2)
  | [], k, before, h => by
    rw [segments, placed, placed] at h
    rcases List.singleton_eq_append_iff.1 h with ⟨-, h⟩ | ⟨-, h⟩
    · cases h
      exact ⟨[], [], rfl, rfl, .nil, rfl⟩
    · cases h
  | c :: s, k, before, h => by
    cases hc : p c with
    | true =>
      rw [segments_cons_cut hc, placed] at h
      cases before with
      | nil =>
        cases h
        refine ⟨[], c :: s, rfl, rfl, .nil, ?_⟩
        rw [List.nil_append, segments_cons_cut hc, map_placed]
      | cons x before =>
        obtain ⟨a, b, rfl, rfl, ha, hb⟩ := segments_of_placed (List.cons.inj h).2
        refine ⟨c :: a, b, rfl, ?_, ha.cons fun _ => hc, hb⟩
        rw [List.length_cons, List.length_nil]; omega
    | false =>
      obtain ⟨t₀, ts, hs⟩ := exists_segments_eq_cons p s
      rw [segments_cons_keep hc hs, placed] at h
      have hrest : placed (k + 1) (segments p s) =
          (k + 1, t₀) :: placed (k + (c :: t₀).length + 1) ts := by
        rw [hs, placed, List.length_cons, show k + 1 + t₀.length + 1 = k + (t₀.length + 1) + 1 by omega]
      cases before with
      | nil =>
        cases h
        have hfirst : placed (n + 1) (segments p s) = [] ++ (n + 1, t₀) :: placed (n + (c :: t₀).length + 1) ts := hrest
        obtain ⟨a, b, hsab, hn, -, hb⟩ := segments_of_placed hfirst
        obtain rfl : a = [] := List.eq_nil_of_length_eq_zero (by omega)
        exact ⟨[], b, by rw [hsab]; rfl, rfl, .nil, segments_cons_keep hc hb⟩
      | cons x before =>
        obtain ⟨-, htail⟩ := List.cons.inj h
        have hlater : placed (k + 1) (segments p s) = ((k + 1, t₀) :: before) ++ (n, t) :: after := by
          rw [hrest, htail]; rfl
        obtain ⟨a, b, rfl, rfl, ha, hb⟩ := segments_of_placed hlater
        refine ⟨c :: a, b, rfl, ?_, ha.cons fun hnil => ?_, hb⟩
        · rw [List.length_cons]; omega
        -- a later segment does not start right behind `c`
        · have hle : k + (c :: t₀).length + 1 ≤ k + 1 + a.length :=
            le_of_mem_placed (by rw [htail]; exact List.mem_append_right _ List.mem_cons_self)
          rw [hnil, List.length_cons, List.length_nil] at hle
          omega

theorem map_filter_nonempty (ts : List (Nat × List Char)) :
    (ts.filter fun t => !t.2.isEmpty).map (·.2) = (ts.map (·.2)).filter fun t => !t.isEmpty := by
  rw [List.filter_map]
  rfl

/-- **What an offset of a piece means.**  The text falls apart at it, behind a separator, and the rest has the piece and
the later ones as its pieces. -/
theorem pieces_of_placed {s : List Char} {k : Nat} {u : Nat × List Char} {before after : List (Nat × List Char)}
    (h : ((placed k (segments p s)).filter fun u => !u.2.isEmpty) = before ++ u :: after) :
    ∃ a b, s = a ++ (u.2 ++ b) ∧ u.1 = k + a.length ∧ EndsWithCut p a ∧
      pieces p (u.2 ++ b) = u.2 :: after.map (·.2) := by
  obtain ⟨l₁, l₂, hplaced, -, hrest⟩ := List.filter_eq_append_iff.1 h
  obtain ⟨u₁, u₂, rfl, -, hne, hafter⟩ := List.filter_eq_cons_iff.1 hrest
  rw [← List.append_assoc] at hplaced
  obtain ⟨a, b, hs, hu, ha, hb⟩ := segments_of_placed hplaced
  exact ⟨a, b, hs, hu, ha, by rw [pieces, hb, List.filter_cons, if_pos hne, ← hafter, map_filter_nonempty]⟩

/-- **Where a piece stands, the text falls apart**: behind a separator, with the earlier pieces in front. -/
theorem exists_append_of_pieces {s t : List Char} {before after : List (List Char)}
    (h : pieces p s = before ++ t :: after) :
    ∃ a b, s = a ++ (t ++ b) ∧ EndsWithCut p a ∧ pieces p a = before ∧ pieces p (t ++ b) = t :: after := by
  have hplaced : ((placed 0 (segments p s)).filter fun u => !u.2.isEmpty).map (·.2) = before ++ t :: after := by
    rw [map_filter_nonempty, map_placed, ← h]
    rfl
  obtain ⟨front, rest, hfilter, -, hrest⟩ := List.map_eq_append_iff.1 hplaced
  obtain ⟨u, back, rfl, rfl, rfl⟩ := List.map_eq_cons_iff.1 hrest
  obtain ⟨a, b, hs, -, ha, hafter⟩ := pieces_of_placed hfilter
  refine ⟨a, b, hs, ha, ?_, hafter⟩
  rw [hs, pieces_append ha, hafter] at h
  exact List.append_cancel_right h

end

/-! ## Trimming -/

section
variable {p : Char → Bool} {a r v s : List Char}

theorem dropEndWhile_append (h : dropEndWhile p r ≠ []) (a : List Char) :
    dropEndWhile p (a ++ r) = a ++ dropEndWhile p r := by
  have hne : (r.reverse.dropWhile p).isEmpty = false := by
    rw [List.isEmpty_eq_false_iff]
    intro hnil
    exact h (by rw [dropEndWhile, hnil]; rfl)
  unfold dropEndWhile
  rw [List.reverse_append, List.dropWhile_append, hne, if_neg Bool.false_ne_true, List.reverse_append,
    List.reverse_reverse]

theorem dropEndWhile_append_of_eq_nil (h : dropEndWhile p r = []) (a : List Char) :
    dropEndWhile p (a ++ r) = dropEndWhile p a := by
  have hnil : r.reverse.dropWhile p = [] := List.reverse_eq_nil_iff.1 h
  unfold dropEndWhile
  rw [List.reverse_append, List.dropWhile_append, hnil, List.isEmpty_nil, if_pos rfl]

theorem dropEndWhile_prefix_self (p : Char → Bool) (s : List Char) : dropEndWhile p s <+: s := by
  rw [dropEndWhile, ← List.reverse_suffix, List.reverse_reverse]
  exact List.dropWhile_suffix p

theorem dropEndWhile_cons {c : Char} (hc : p c = false) (s : List Char) :
    dropEndWhile p (c :: s) = c :: dropEndWhile p s := by
  have hcons : c :: s = [c] ++ s := rfl
  by_cases h : dropEndWhile p s = []
  · rw [hcons, dropEndWhile_append_of_eq_nil h, h]
    simp [dropEndWhile, hc]
  · rw [hcons, dropEndWhile_append h]
    rfl

theorem dropEndWhile_of_forall : ∀ {s : List Char}, (∀ c ∈ s, p c = false) → dropEndWhile p s = s
  | [], _ => rfl
  | c :: s, h => by
    rw [List.forall_mem_cons] at h
    rw [dropEndWhile_cons h.1, dropEndWhile_of_forall h.2]

/-- **Trimming an end does not depend on what stands in front of it.** -/
theorem dropEndWhile_of_append (h : dropEndWhile p (a ++ r) = a ++ v) (hv : v ≠ []) : dropEndWhile p r = v := by
  by_cases hr : dropEndWhile p r = []
  · rw [dropEndWhile_append_of_eq_nil hr] at h
    have hle := (dropEndWhile_prefix_self p a).length_le
    have hpos := List.length_pos_iff.2 hv
    rw [h, List.length_append] at hle
    omega
  · rw [dropEndWhile_append hr] at h
    exact List.append_cancel_left h

theorem exists_of_trim (h : trim s = a ++ v) (hv : v ≠ []) :
    ∃ r, s = s.takeWhile isBlank ++ (a ++ r) ∧ dropEndWhile isBlank r = v := by
  rw [trim] at h
  obtain ⟨e, he⟩ := dropEndWhile_prefix_self isBlank (s.dropWhile isBlank)
  rw [h, List.append_assoc] at he
  refine ⟨v ++ e, ?_, dropEndWhile_of_append (by rw [he, h]) hv⟩
  rw [he, List.takeWhile_append_dropWhile]

theorem dropEndWhile_drop_of_trim (h : trim s = a ++ v) (hv : v ≠ []) :
    dropEndWhile isBlank (s.drop ((s.takeWhile isBlank).length + a.length)) = v := by
  obtain ⟨r, hs, hr⟩ := exists_of_trim h hv
  rw [← List.append_assoc] at hs
  have hdrop : s.drop (s.takeWhile isBlank ++ a).length = r := by
    conv => lhs; arg 2; rw [hs]
    exact List.drop_left
  rw [← List.length_append, hdrop, hr]

theorem of_mem_head?_dropWhile {α : Type} {q : α → Bool} {l : List α} {a : α} (h : a ∈ (l.dropWhile q).head?) :
    q a = false := by
  have hhead := List.head?_dropWhile_not q l
  rw [h] at hhead
  exact hhead

theorem not_isBlank_of_trim {c : Char} (h : trim s = c :: r) : isBlank c = false := by
  rw [trim] at h
  obtain ⟨e, he⟩ := dropEndWhile_prefix_self isBlank (s.dropWhile isBlank)
  refine of_mem_head?_dropWhile (l := s) ?_
  rw [← he, h]
  rfl

end

end Text
end Clearance

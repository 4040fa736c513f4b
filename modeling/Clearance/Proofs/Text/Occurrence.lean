import Clearance.Text.Search
/-!
# Occurrence — what is known about the first occurrence of a text

`find?_eq_some_iff` says which offset a search finds: one where the text occurs, with no occurrence in front of it.
-/
namespace Clearance
namespace Text

variable {needle s t : List Char} {n m : Nat}

/-- **A search finds the first occurrence.** -/
theorem find?_eq_some_iff : ∀ {s : List Char} {n : Nat},
    find? needle s = some n ↔ needle <+: s.drop n ∧ n ≤ s.length ∧ ∀ m < n, ¬needle <+: s.drop m
  | [], n => by
    rw [find?, List.drop_nil, List.prefix_nil, List.length_nil]
    cases needle with
    | nil =>
      constructor
      · rintro ⟨⟩
        exact ⟨rfl, Nat.le_refl _, fun m hm => absurd hm (Nat.not_lt_zero m)⟩
      · rintro ⟨-, hn, -⟩
        rw [Nat.le_zero.1 hn]
        rfl
    | cons c needle => simp
  | c :: s, 0 => by
    rw [find?]
    by_cases h : needle.isPrefixOf (c :: s) = true
    · rw [if_pos h]
      exact ⟨fun _ => ⟨List.isPrefixOf_iff_prefix.1 h, Nat.zero_le _, fun m hm => absurd hm (Nat.not_lt_zero m)⟩,
        fun _ => rfl⟩
    · rw [if_neg h]
      constructor
      · intro hf
        obtain ⟨m, -, hm⟩ := Option.map_eq_some_iff.1 hf
        exact absurd hm (Nat.succ_ne_zero m)
      · intro hp
        exact absurd (List.isPrefixOf_iff_prefix.2 hp.1) h
  | c :: s, n + 1 => by
    rw [find?]
    by_cases h : needle.isPrefixOf (c :: s) = true
    · rw [if_pos h]
      constructor
      · intro hf
        cases hf
      · rintro ⟨-, -, hmin⟩
        exact absurd (List.isPrefixOf_iff_prefix.1 h) (hmin 0 (Nat.succ_pos n))
    · rw [if_neg h]
      have ih := find?_eq_some_iff (s := s) (n := n)
      constructor
      · intro hf
        obtain ⟨k, hk, hkn⟩ := Option.map_eq_some_iff.1 hf
        cases hkn
        obtain ⟨hp, hle, hmin⟩ := ih.1 hk
        refine ⟨hp, Nat.succ_le_succ hle, fun m hm => ?_⟩
        cases m with
        | zero => exact fun h0 => h (List.isPrefixOf_iff_prefix.2 h0)
        | succ m => exact hmin m (Nat.lt_of_succ_lt_succ hm)
      · rintro ⟨hp, hle, hmin⟩
        have hfind := ih.2 ⟨hp, Nat.le_of_succ_le_succ hle, fun m hm => hmin (m + 1) (Nat.succ_lt_succ hm)⟩
        rw [hfind]
        rfl

theorem find?_eq_zero (h : needle <+: s) : find? needle s = some 0 :=
  find?_eq_some_iff.2 ⟨h, Nat.zero_le _, fun m hm => absurd hm (Nat.not_lt_zero m)⟩

theorem length_le_of_find? (h : find? needle s = some n) : n + needle.length ≤ s.length := by
  obtain ⟨hp, hle, -⟩ := find?_eq_some_iff.1 h
  have hlen := hp.length_le
  rw [List.length_drop] at hlen
  omega

theorem exists_find?_le (h : needle <+: s.drop m) (hm : m ≤ s.length) : ∃ n ≤ m, find? needle s = some n := by
  induction m using Nat.strongRecOn with
  | ind m ih =>
    by_cases hfirst : ∀ k < m, ¬needle <+: s.drop k
    · exact ⟨m, Nat.le_refl m, find?_eq_some_iff.2 ⟨h, hm, hfirst⟩⟩
    · obtain ⟨k, hk⟩ := Classical.not_forall.1 hfirst
      obtain ⟨hkm, hp⟩ := Classical.not_imp.1 hk
      obtain ⟨n, hn, hfind⟩ := ih k hkm (Classical.not_not.1 hp) (by omega)
      exact ⟨n, by omega, hfind⟩

/-- **A search does not look behind what it finds.** -/
theorem find?_append (h : find? needle s = some n) (t : List Char) : find? needle (s ++ t) = some n := by
  have hlen := length_le_of_find? h
  obtain ⟨hp, hle, hmin⟩ := find?_eq_some_iff.1 h
  refine find?_eq_some_iff.2 ⟨?_, ?_, fun m hm hpm => hmin m hm ?_⟩
  · rw [List.drop_append_of_le_length hle]
    exact hp.trans (List.prefix_append _ _)
  · rw [List.length_append]; omega
  · rw [List.drop_append_of_le_length (by omega)] at hpm
    refine List.prefix_of_prefix_length_le hpm (List.prefix_append _ _) ?_
    rw [List.length_drop]; omega

/-- **A search that begins further on**, but not behind what it finds, finds the same. -/
theorem find?_drop (h : find? needle s = some m) (hn : n ≤ m) : find? needle (s.drop n) = some (m - n) := by
  obtain ⟨hp, hle, hmin⟩ := find?_eq_some_iff.1 h
  refine find?_eq_some_iff.2 ⟨?_, ?_, fun k hk => ?_⟩
  · rwa [List.drop_drop, Nat.add_sub_cancel' hn]
  · rw [List.length_drop]; omega
  · rw [List.drop_drop]
    exact hmin (n + k) (by omega)

theorem exists_find?_iff_infix : (∃ n, find? needle s = some n) ↔ needle <:+: s := by
  constructor
  · rintro ⟨n, hn⟩
    obtain ⟨r, hr⟩ := (find?_eq_some_iff.1 hn).1
    exact ⟨s.take n, r, by rw [List.append_assoc, hr, List.take_append_drop]⟩
  · rintro ⟨front, r, rfl⟩
    rw [List.append_assoc]
    have hocc : needle <+: (front ++ (needle ++ r)).drop front.length := ⟨r, by rw [List.drop_left]⟩
    obtain ⟨n, -, hn⟩ := exists_find?_le hocc (by rw [List.length_append]; omega)
    exact ⟨n, hn⟩

/-- **A text contains another exactly when that is a part of it.** -/
theorem contains_iff_infix : contains s needle = true ↔ needle <:+: s := by
  rw [contains, Option.isSome_iff_exists, exists_find?_iff_infix]

theorem find?_eq_none_iff : find? needle s = none ↔ ¬needle <:+: s := by
  rw [← exists_find?_iff_infix, ← Option.isSome_iff_exists, Option.not_isSome_iff_eq_none]

end Text
end Clearance

import Clearance.Preferential.Compose
import Clearance.Proofs.Text.Occurrence
/-!
# Occurring — in which order the names of a text are found

A name is found once, with the offset of its first occurrence.  The offsets never fall along the list, and names with
the same offset, of which one begins with the other, stand in the order in which they are listed (`pairwise_occurring`):
each name is taken where it is listed first, and the sort by offset is stable.
-/
namespace Clearance
namespace PreferentialRoute

open Text

/-- One name stands before another one in a text, or at the same place and before it in the list. -/
def Precedes (names : List String) (text : List Char) (a b : String) : Prop :=
  ∃ m n, find? a.toList text = some m ∧ find? b.toList text = some n ∧
    (m < n ∨ m = n ∧ names.idxOf a < names.idxOf b)

variable {names : List String} {text : List Char} {a b : String}

theorem Precedes.ne (h : Precedes names text a b) : a ≠ b := by
  rintro rfl
  obtain ⟨m, n, hm, hn, hlt⟩ := h
  cases hm.symm.trans hn
  omega

theorem Precedes.asymm (h : Precedes names text a b) : ¬Precedes names text b a := by
  rintro ⟨n, m, hn, hm, hba⟩
  obtain ⟨m', n', hm', hn', hab⟩ := h
  cases hm.symm.trans hm'
  cases hn.symm.trans hn'
  omega

theorem mem_occurring_iff {n : Nat} {name : String} : (n, name) ∈ occurring names text ↔
    name ∈ names ∧ name ≠ "" ∧ find? name.toList text = some n := by
  simp only [occurring, List.mem_mergeSort, List.mem_filterMap, List.mem_eraseDups]
  constructor
  · rintro ⟨name', hname, hfound⟩
    split at hfound
    · cases hfound
    · rename_i hempty
      obtain ⟨n', hn, heq⟩ := Option.map_eq_some_iff.1 hfound
      cases heq
      exact ⟨hname, fun h => hempty (String.isEmpty_iff.2 h), hn⟩
  · rintro ⟨hname, hne, hn⟩
    refine ⟨name, hname, ?_⟩
    rw [if_neg fun h => hne (String.isEmpty_iff.1 h), hn, Option.map_some]

/-! ## A stable sort -/

section

variable {α : Type} (key : α → Nat) (l : List α)

theorem key_trans (a b c : α) (hab : decide (key a ≤ key b) = true) (hbc : decide (key b ≤ key c) = true) :
    decide (key a ≤ key c) = true :=
  decide_eq_true (Nat.le_trans (of_decide_eq_true hab) (of_decide_eq_true hbc))

theorem key_total (a b : α) : (decide (key a ≤ key b) || decide (key b ≤ key a)) = true := by
  simpa only [Bool.or_eq_true, decide_eq_true_eq] using Nat.le_total (key a) (key b)

theorem filter_mergeSort_key (n : Nat) :
    (l.mergeSort fun a b => key a ≤ key b).filter (key · = n) = l.filter (key · = n) := by
  have hties : (l.filter (key · = n)).Pairwise fun a b => decide (key a ≤ key b) = true := by
    refine List.pairwise_of_forall_mem_list fun a ha b hb => decide_eq_true ?_
    have hka : key a = n := of_decide_eq_true (List.mem_filter.1 ha).2
    have hkb : key b = n := of_decide_eq_true (List.mem_filter.1 hb).2
    exact Nat.le_of_eq (hka.trans hkb.symm)
  have hsub := (List.sublist_mergeSort (key_trans key) (key_total key) hties List.filter_sublist).filter (key · = n)
  rw [List.filter_filter, funext fun a => Bool.and_self _] at hsub
  exact (hsub.eq_of_length ((List.mergeSort_perm l _).filter _).length_eq.symm).symm

/-- **A stable sort leaves alone what it does not tell apart**: what holds of every pair in order still holds of those
with the same key. -/
theorem pairwise_mergeSort_key {R : α → α → Prop} (h : l.Pairwise R) :
    (l.mergeSort fun a b => key a ≤ key b).Pairwise fun a b => key a < key b ∨ key a = key b ∧ R a b := by
  refine List.pairwise_iff_forall_sublist.2 fun {a b} hab => ?_
  have hle : key a ≤ key b := of_decide_eq_true
    (List.pairwise_iff_forall_sublist.1 (List.pairwise_mergeSort (key_trans key) (key_total key) l) hab)
  rcases Nat.lt_or_eq_of_le hle with hlt | heq
  · exact .inl hlt
  · have hties := hab.filter (key · = key b)
    rw [filter_mergeSort_key, List.filter_cons_of_pos (by simpa using heq), List.filter_cons_of_pos (by simp)] at hties
    exact .inr ⟨heq, List.pairwise_iff_forall_sublist.1 h (hties.trans List.filter_sublist)⟩

end

/-! ## The order of the names -/

theorem idxOf_lt_of_filter {p : String → Bool} {a b : String} (ha : p a = true) (hb : p b = true) :
    ∀ {l : List String}, (l.filter p).idxOf a < (l.filter p).idxOf b → l.idxOf a < l.idxOf b
  | [], h => h
  | x :: l, h => by
    have ih := idxOf_lt_of_filter ha hb (l := l)
    grind

theorem pairwise_eraseDups (l : List String) : l.eraseDups.Pairwise fun a b => l.idxOf a < l.idxOf b := by
  match l with
  | [] => exact .nil
  | x :: l =>
    have hother : ∀ {a}, a ∈ (l.filter fun b => !b == x).eraseDups → (!a == x) = true := fun ha =>
      (List.mem_filter.1 (List.mem_eraseDups.1 ha)).2
    rw [List.eraseDups_cons, List.pairwise_cons]
    constructor
    · intro a ha
      have hne := hother ha
      grind
    · refine (pairwise_eraseDups (l.filter fun b => !b == x)).imp_of_mem fun {a b} ha hb hlt => ?_
      have hlt' := idxOf_lt_of_filter (hother ha) (hother hb) hlt
      have hne := hother hb
      grind
termination_by l.length
decreasing_by exact Nat.lt_succ_of_le (List.length_filter_le _ _)

/-- **The names are in the order in which they occur**, and those that occur at the same place in the order in which
they are listed. -/
theorem pairwise_occurring : (occurring names text).Pairwise fun a b =>
    a.1 < b.1 ∨ a.1 = b.1 ∧ names.idxOf a.2 < names.idxOf b.2 := by
  have hname : ∀ {name : String} {found : Nat × String},
      (if name.isEmpty then none else (find? name.toList text).map fun n => (n, name)) = some found →
        found.2 = name := by
    intro name found h
    split at h
    · cases h
    · obtain ⟨_, _, rfl⟩ := Option.map_eq_some_iff.1 h
      rfl
  refine pairwise_mergeSort_key Prod.fst _ ?_
  refine List.Pairwise.filterMap _ (fun a b hab found hfound found' hfound' => ?_) (pairwise_eraseDups names)
  rwa [hname hfound, hname hfound']

theorem le_of_occurring {first : Nat × String} {later : List (Nat × String)}
    (h : occurring names text = first :: later) {found : Nat × String} (hmem : found ∈ occurring names text) :
    first.1 ≤ found.1 := by
  have hpairs : (occurring names text).Pairwise _ := pairwise_occurring
  rw [h] at hpairs hmem
  rcases List.mem_cons.1 hmem with rfl | hlater
  · exact Nat.le_refl _
  · have hfirst := List.rel_of_pairwise_cons hpairs hlater
    omega

theorem pairwise_precedes : ((occurring names text).map (·.2)).Pairwise (Precedes names text) := by
  refine List.pairwise_map.2 (pairwise_occurring.imp_of_mem fun {a b} ha hb hab => ?_)
  exact ⟨a.1, b.1, (mem_occurring_iff.1 ha).2.2, (mem_occurring_iff.1 hb).2.2, hab⟩

end PreferentialRoute
end Clearance

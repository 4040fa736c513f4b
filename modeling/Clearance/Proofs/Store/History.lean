import Mathlib.Logic.Function.Iterate
import Clearance.Store.Basic
/-!
# History — the steps of a run that did something

What a run leaves behind is often what its last step of some kind left there.  `Last` names that step and the state
before it, `never_or_last` says that a run has one unless it has no step of the kind at all, and `Last.view_eq` that
what the other steps keep is still as that step left it.  Where a step of a kind turns something over, it matters how
many there were (`count`, `iterate_count_cons`).
-/
namespace Clearance
namespace History

variable {σ α β : Type} (step : σ → α → σ) (P : σ → α → Prop)

/-- No step of the run satisfies `P`, read at the state before the step. -/
def Never : σ → List α → Prop
  | _, [] => True
  | s, a :: as => ¬P s a ∧ Never (step s a) as

/-- The step `a`, taken at the state `t`, is the last one of the run that satisfies `P`. -/
def Last (s : σ) (l : List α) (t : σ) (a : α) : Prop :=
  ∃ before after, l = before ++ a :: after ∧ before.foldl step s = t ∧ P t a ∧ Never step P (step t a) after

/-- How many steps of the run satisfy `p`, read at the state before the step. -/
def count (p : σ → α → Bool) : σ → List α → Nat
  | _, [] => 0
  | s, a :: l => (if p s a then 1 else 0) + count p (step s a) l

variable {step P}

theorem Last.holds {s t : σ} {l : List α} {a : α} (h : Last step P s l t a) : P t a := by
  obtain ⟨-, -, -, -, ha, -⟩ := h
  exact ha

theorem Last.reached {s t : σ} {l : List α} {a : α} (h : Last step P s l t a) :
    ∃ before : List α, before.foldl step s = t := by
  obtain ⟨before, -, -, ht, -⟩ := h
  exact ⟨before, ht⟩

theorem Last.cons {s t : σ} {l : List α} {a : α} (b : α) (h : Last step P (step s b) l t a) :
    Last step P s (b :: l) t a := by
  obtain ⟨before, after, rfl, ht, ha, hnever⟩ := h
  exact ⟨b :: before, after, rfl, ht, ha, hnever⟩

theorem never_or_last : ∀ (l : List α) (s : σ), Never step P s l ∨ ∃ t a, Last step P s l t a
  | [], _ => .inl trivial
  | a :: l, s => by
    rcases never_or_last l (step s a) with hnever | ⟨t, b, hlast⟩
    · by_cases ha : P s a
      · exact .inr ⟨s, a, [], l, rfl, rfl, ha, hnever⟩
      · exact .inl ⟨ha, hnever⟩
    · exact .inr ⟨t, b, hlast.cons a⟩

section
variable {Inv : σ → Prop} (hinv : ∀ s a, Inv s → Inv (step s a)) {view : σ → β}
  (hview : ∀ s a, Inv s → ¬P s a → view (step s a) = view s)
include hinv hview

/-- **What the steps without `P` keep, a run of them keeps.** -/
theorem Never.view_eq : ∀ {l : List α} {s : σ}, Inv s → Never step P s l → view (l.foldl step s) = view s
  | [], _, _, _ => rfl
  | a :: l, s, hs, ⟨ha, hnever⟩ => by
    rw [List.foldl_cons, Never.view_eq (hinv s a hs) hnever, hview s a hs ha]

/-- **What the steps without `P` keep is still as the last step with `P` left it.** -/
theorem Last.view_eq {l : List α} {s t : σ} {a : α} (hs : Inv s) (h : Last step P s l t a) :
    Inv t ∧ view (l.foldl step s) = view (step t a) := by
  obtain ⟨before, after, rfl, rfl, -, hnever⟩ := h
  have ht := List.foldlRecOn (motive := Inv) before step hs fun t ht b _ => hinv t b ht
  rw [List.foldl_append, List.foldl_cons]
  exact ⟨ht, Never.view_eq hinv hview (hinv _ a ht) hnever⟩

end

/-- What some steps of a run turn over is turned over as often as there are such steps. -/
theorem iterate_count_cons (p : σ → α → Bool) (s : σ) (a : α) (l : List α) (b : Bool) :
    not^[count step p s (a :: l)] b = not^[count step p (step s a) l] (b ^^ p s a) := by
  rw [count]
  cases p s a with
  | false => rw [if_neg Bool.false_ne_true, Nat.zero_add, Bool.xor_false]
  | true => rw [if_pos rfl, Nat.add_comm, Function.iterate_succ_apply, Bool.xor_true]

end History
end Clearance

import Clearance.Time.Instant
/-!
# Elapsed — how the time since a moment depends on the clock

The clock counts a leap second only between two times of day of which one lies in it, so the time that has passed since
a moment does not always grow with the clock.  It does from one clock value to a later one if neither these nor the
moment lie in a leap second, or if a second passes between the two (`since_le_since`).
-/
namespace Clearance
namespace Time

theorem Span.nanos_ofSeconds (n : Int) : (ofSeconds n).nanos = n * 1000000000 := rfl

namespace Instant

/-- Moments in the order in which they come. -/
instance : LE Instant :=
  ⟨fun t u => t.day < u.day ∨ t.day = u.day ∧ (t.second < u.second ∨ t.second = u.second ∧ t.nano ≤ u.nano)⟩

instance (t u : Instant) : Decidable (t ≤ u) :=
  inferInstanceAs (Decidable (t.day < u.day ∨ t.day = u.day ∧
    (t.second < u.second ∨ t.second = u.second ∧ t.nano ≤ u.nano)))

/-- The moment lies in a leap second. -/
def IsLeap (t : Instant) : Prop := 1000000000 ≤ t.nano

instance (t : Instant) : Decidable t.IsLeap := inferInstanceAs (Decidable (_ ≤ _))

variable {t t' u : Instant}

theorem le_iff : t ≤ u ↔
    t.day < u.day ∨ t.day = u.day ∧ (t.second < u.second ∨ t.second = u.second ∧ t.nano ≤ u.nano) := Iff.rfl

theorem nanos_since (t u : Instant) : (t.since u).nanos =
    ((t.day - u.day) * 86400 + ((t.second : Int) - u.second) + leapCorrection t u) * 1000000000 +
      ((t.nano : Int) - u.nano) := rfl

/-- The corrections, and the one of the two moments that lies in a leap second. -/
theorem leapCorrection_cases (t u : Instant) :
    (leapCorrection t u = 1 ∧ u.second < t.second ∧ u.IsLeap) ∨
    (leapCorrection t u = -1 ∧ t.second < u.second ∧ t.IsLeap) ∨
    (leapCorrection t u = 0 ∧ (u.second < t.second → ¬u.IsLeap) ∧ (t.second < u.second → ¬t.IsLeap)) := by
  unfold leapCorrection IsLeap
  split
  · split
    · exact .inl ⟨rfl, by omega, by omega⟩
    · exact .inr (.inr ⟨rfl, by omega, by omega⟩)
  · split
    · split
      · exact .inr (.inl ⟨rfl, by omega, by omega⟩)
      · exact .inr (.inr ⟨rfl, by omega, by omega⟩)
    · exact .inr (.inr ⟨rfl, by omega, by omega⟩)

theorem leapCorrection_of_not_isLeap (ht : ¬t.IsLeap) (hu : ¬u.IsLeap) : leapCorrection t u = 0 := by
  rcases leapCorrection_cases t u with ⟨-, -, h⟩ | ⟨-, -, h⟩ | ⟨h, -, -⟩
  · exact absurd h hu
  · exact absurd h ht
  · exact h

/-! ## Two clock values -/

theorem since_le_since_of_not_isLeap (h : t ≤ t') (ht : ¬t.IsLeap) (ht' : ¬t'.IsLeap) (hu : ¬u.IsLeap) :
    (t.since u).nanos ≤ (t'.since u).nanos := by
  rw [nanos_since, nanos_since, leapCorrection_of_not_isLeap ht hu, leapCorrection_of_not_isLeap ht' hu]
  rw [le_iff] at h
  unfold IsLeap at ht ht'
  have hsecond := t.second_lt
  omega

theorem since_le_since_of_second (h : 1000000000 ≤ (t'.since t).nanos) : (t.since u).nanos ≤ (t'.since u).nanos := by
  rw [nanos_since] at h ⊢
  rw [nanos_since]
  -- by the order of the three times of day, and by which of the moments lie in a leap second
  rcases leapCorrection_cases t' t with ⟨h1, _, _⟩ | ⟨h1, _, _⟩ | ⟨h1, _, _⟩ <;>
  rcases leapCorrection_cases t u with ⟨h2, _, _⟩ | ⟨h2, _, _⟩ | ⟨h2, _, _⟩ <;>
  rcases leapCorrection_cases t' u with ⟨h3, _, _⟩ | ⟨h3, _, _⟩ | ⟨h3, _, _⟩ <;>
  rw [h1] at h <;> rw [h2, h3] <;> unfold IsLeap at * <;> omega

/-! ## A moment that is still to come -/

theorem since_nonpos (h : t ≤ u) (ht : ¬t.IsLeap) : (t.since u).nanos ≤ 0 := by
  rw [nanos_since]
  rw [le_iff] at h
  have hsecond := t.second_lt
  rcases leapCorrection_cases t u with ⟨hc, _, _⟩ | ⟨hc, _, _⟩ | ⟨hc, _, _⟩ <;> rw [hc] <;> unfold IsLeap at * <;> omega

/-- **Less than a second has passed since a moment that is still to come.** -/
theorem since_lt_second (h : t ≤ u) : (t.since u).nanos < 1000000000 := by
  rw [nanos_since]
  rw [le_iff] at h
  have hsecond := t.second_lt
  have hnano := t.nano_lt
  rcases leapCorrection_cases t u with ⟨hc, _, _⟩ | ⟨hc, _, _⟩ | ⟨hc, _, _⟩ <;> rw [hc] <;> unfold IsLeap at * <;> omega

end Instant
end Time
end Clearance

import Mathlib.Tactic.IntervalCases
import Clearance.Time.Calendar
/-!
# Calendar — a day number is found again from its date

An era of 400 years has four centuries, a century 25 groups of four years, and the leap day is the last day of such a
group.  A century is one day short unless it is the last one.  `InEra` places a day in this scheme; the arithmetic of
`Date.ofDay` finds the place without it.
-/
namespace Clearance
namespace Time

/-- The place of a day in its era: century, group of four years, year of the group, and day of the year, which begins in
March. -/
structure InEra (dayOfEra century group year day : Int) : Prop where
  century_range : 0 ≤ century ∧ century ≤ 3
  group_range : 0 ≤ group ∧ group ≤ 24
  year_range : 0 ≤ year ∧ year ≤ 3
  day_range : 0 ≤ day ∧ day ≤ 365
  leap : day = 365 → year = 3 ∧ (group = 24 → century = 3)
  sum_eq : dayOfEra = 36524 * century + 1461 * group + 365 * year + day

theorem exists_inEra {d : Int} (hlow : 0 ≤ d) (hhigh : d < 146097) : ∃ c g y e, InEra d c g y e := by
  obtain ⟨c, hc, hcd, hdc⟩ : ∃ c : Int, (0 ≤ c ∧ c ≤ 3) ∧ 36524 * c ≤ d ∧ (d < 36524 * (c + 1) ∨ c = 3) := by
    by_cases h : d < 109572
    · exact ⟨d / 36524, by omega, by omega, by omega⟩
    · exact ⟨3, by omega, by omega, by omega⟩
  obtain ⟨g, r, hg, hr, hdr⟩ : ∃ g r : Int, (0 ≤ g ∧ g ≤ 24) ∧ (0 ≤ r ∧ r < 1461) ∧ d - 36524 * c = 1461 * g + r :=
    ⟨(d - 36524 * c) / 1461, (d - 36524 * c) % 1461, by omega, by omega, by omega⟩
  obtain ⟨y, hy, hyr, hry⟩ : ∃ y : Int, (0 ≤ y ∧ y ≤ 3) ∧ 365 * y ≤ r ∧ (r < 365 * (y + 1) ∨ y = 3) := by
    by_cases h : r < 1095
    · exact ⟨r / 365, by omega, by omega, by omega⟩
    · exact ⟨3, by omega, by omega, by omega⟩
  exact ⟨c, g, y, r - 365 * y, hc, hg, hy, by omega, by omega, by omega⟩

namespace InEra

variable {d c g y e : Int}

/-- The corrections for leap days even out to years of 365 days. -/
theorem year_eq (h : InEra d c g y e) : (d - d / 1460 + d / 36524 - d / 146096) / 365 = 100 * c + 4 * g + y := by
  obtain ⟨hc, hg, hy, he, hleap, hd⟩ := h
  have hera : d / 146096 = if d = 146096 then 1 else 0 := by split <;> omega
  have hcentury : d / 36524 = if d = 146096 then 4 else c := by split <;> omega
  have hgroup : d / 1460 = 25 * c + g + if 1460 * (25 * c + g + 1) ≤ d then 1 else 0 := by split <;> omega
  rw [hera, hcentury, hgroup]
  split <;> split <;> omega

theorem day_eq (h : InEra d c g y e) :
    d - (365 * (100 * c + 4 * g + y) + (100 * c + 4 * g + y) / 4 - (100 * c + 4 * g + y) / 100) = e := by
  obtain ⟨hc, hg, hy, he, hleap, hd⟩ := h
  omega

end InEra

namespace Date

theorem month_spec {e : Nat} (he : e ≤ 365) :
    (5 * e + 2) / 153 ≤ 11 ∧ (153 * ((5 * e + 2) / 153) + 2) / 5 ≤ e ∧
      e < (153 * ((5 * e + 2) / 153 + 1) + 2) / 5 := by
  omega

theorem exists_ofDay (n : Int) : ∃ (era c g y : Int) (e m : Nat), InEra (n + 719468 - 146097 * era) c g y e ∧
    m = (5 * e + 2) / 153 ∧
    ofDay n = ⟨if m < 10 then 100 * c + 4 * g + y + era * 400 else 100 * c + 4 * g + y + era * 400 + 1,
      if m < 10 then m + 3 else m - 9, e - (153 * m + 2) / 5 + 1⟩ := by
  -- the eras begin on 1 March of the year 0, so that a leap day is the last day of its year
  obtain ⟨c, g, y, e, h⟩ := exists_inEra (d := (n + 719468) % 146097) (by omega) (by omega)
  obtain ⟨e, rfl⟩ := Int.eq_ofNat_of_zero_le h.day_range.1
  have hera : n + 719468 - 146097 * ((n + 719468) / 146097) = (n + 719468) % 146097 := by omega
  refine ⟨(n + 719468) / 146097, c, g, y, e, _, hera ▸ h, rfl, ?_⟩
  simp only [ofDay, h.year_eq, h.day_eq, Int.toNat_natCast]

theorem toDay_eq (y : Int) {m : Nat} (hm : m ≤ 11) (d : Nat) :
    toDay ⟨if m < 10 then y else y + 1, if m < 10 then m + 3 else m - 9, d⟩ =
      y / 400 * 146097 + y % 400 * 365 + y % 400 / 4 - y % 400 / 100 + Int.ofNat ((153 * m + 2) / 5 + d - 1)
        - 719468 := by
  by_cases hspring : m < 10
  · have hmonth : ¬m + 3 ≤ 2 := by omega
    simp only [toDay, hspring, if_true, hmonth, if_false, Nat.add_sub_cancel]
  · have hmonth : m - 9 ≤ 2 := by omega
    have hback : m - 9 + 9 = m := by omega
    simp only [toDay, hspring, if_false, hmonth, if_true, hback, Int.add_sub_cancel]

/-- **The number of the date of a day is that day.** -/
theorem toDay_ofDay (n : Int) : (ofDay n).toDay = n := by
  obtain ⟨era, c, g, y, e, m, h, hm, hdate⟩ := exists_ofDay n
  obtain ⟨hc, hg, hy, he, hleap, hd⟩ := h
  obtain ⟨hlast, hfirst, hnext⟩ := month_spec (e := e) (by omega)
  rw [← hm] at hlast hfirst
  have hera : (100 * c + 4 * g + y + era * 400) / 400 = era := by omega
  have hyear : (100 * c + 4 * g + y + era * 400) % 400 = 100 * c + 4 * g + y := by omega
  have hday : (153 * m + 2) / 5 + (e - (153 * m + 2) / 5 + 1) - 1 = e := by omega
  rw [hdate, toDay_eq _ hlast, hera, hyear, hday, Int.ofNat_eq_natCast]
  omega

theorem ofDay_lt (n : Int) : (ofDay n).month < 100 ∧ (ofDay n).day < 100 := by
  obtain ⟨era, c, g, y, e, m, h, hm, hdate⟩ := exists_ofDay n
  obtain ⟨hc, hg, hy, he, hleap, hd⟩ := h
  obtain ⟨hlast, hfirst, hnext⟩ := month_spec (e := e) (by omega)
  rw [← hm] at hlast hfirst hnext
  rw [hdate]
  constructor
  · show (if m < 10 then m + 3 else m - 9) < 100
    split <;> omega
  · show e - (153 * m + 2) / 5 + 1 < 100
    omega

/-- **The calendar has the date of each day.** -/
theorem isValid_ofDay (n : Int) : (ofDay n).isValid = true := by
  obtain ⟨era, c, g, y, e, m, h, hm, hdate⟩ := exists_ofDay n
  obtain ⟨hc, hg, hy, he, hleap, hd⟩ := h
  obtain ⟨hlast, hfirst, hnext⟩ := month_spec (e := e) (by omega)
  rw [← hm] at hlast hfirst hnext
  rw [hdate, isValid, Bool.and_eq_true, decide_eq_true_eq, decide_eq_true_eq]
  refine ⟨Nat.le_add_left 1 _, ?_⟩
  by_cases hfeb : m = 11
  · -- the last month has a 29th day only as the last day of a leap year
    subst hfeb
    have hlength : daysInMonth (100 * c + 4 * g + y + era * 400 + 1) 2 =
        if isLeapYear (100 * c + 4 * g + y + era * 400 + 1) then 29 else 28 := rfl
    simp only [Nat.reduceLT, if_false, Nat.reduceSub, hlength]
    by_cases hlast : e = 365
    · have hyear : isLeapYear (100 * c + 4 * g + y + era * 400 + 1) = true := by
        simp only [isLeapYear, Bool.and_eq_true, Bool.or_eq_true, decide_eq_true_eq]
        omega
      rw [if_pos hyear]
      omega
    · split <;> omega
  · interval_cases m <;> simp only [Nat.reduceLT, Nat.reduceAdd, Nat.reduceSub, if_true, if_false, daysInMonth] <;> omega

end Date

end Time
end Clearance

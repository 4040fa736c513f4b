import Mathlib.Data.List.Basic
import Clearance.Text.Blank
import Clearance.Text.Uppercase
/-!
# Capitals — a text in capitals stays as it is

No capital form holds a character that has another capital, or a blank.  The capitals of a run of letters are an
interval of code points themselves, so the tables are compared interval by interval (`isFinalBlock`) and not letter by
letter.
-/
namespace Clearance
namespace Text

/-- A character that is its own capital, and no blank. -/
structure IsFinal (c : Char) : Prop where
  capital : upperChar c = [c]
  solid : isBlank c = false

/-- Whether the code points from `lo` to `hi`, or only every second one of them, lie outside a run. -/
def missesRun (lo hi : Nat) (second : Bool) (r : Nat × Nat × Nat × Int) : Bool :=
  Nat.blt hi r.1 || Nat.blt r.2.1 lo || second && Nat.beq r.2.2.1 2 && Nat.beq ((lo + r.1) % 2) 1

/-- Whether the code points from `lo` to `hi`, or only every second one of them, are final. -/
def isFinalBlock (lo hi : Nat) (second : Bool) : Bool :=
  (Nat.blt hi 0xD800 || Nat.blt 0xDFFF lo && Nat.blt hi 0x110000)
    && capitalRuns.all (missesRun lo hi second)
    && capitalTexts.all (fun e => Nat.blt e.1 lo || Nat.blt hi e.1)
    && blankRuns.all (fun r => Nat.blt hi r.1 || Nat.blt r.2 lo)

/-! ## The tables -/

theorem isFinalBlock_capitalTexts : ∀ e ∈ capitalTexts, e.2 ≠ [] ∧ ∀ n ∈ e.2, isFinalBlock n n true = true := by
  decide +kernel

theorem isFinalBlock_capitalRuns : ∀ r ∈ capitalRuns, 0 ≤ r.1 + r.2.2.2 ∧
    isFinalBlock (r.1 + r.2.2.2).toNat (r.2.1 + r.2.2.2).toNat (Nat.beq r.2.2.1 2 || Nat.beq r.1 r.2.1) = true := by
  decide +kernel

theorem capitalOf_cases (n : Nat) : capitalOf n = n ∨
    ∃ r ∈ capitalRuns, r.1 ≤ n ∧ n ≤ r.2.1 ∧ (n - r.1) % r.2.2.1 = 0 ∧ capitalOf n = (n + r.2.2.2).toNat := by
  rw [capitalOf]
  cases h : capitalRuns.find? (fun r => r.1 ≤ n && n ≤ r.2.1 && (n - r.1) % r.2.2.1 == 0) with
  | none => exact .inl rfl
  | some r =>
    have hr := List.find?_some h
    simp only [Bool.and_eq_true, decide_eq_true_eq, beq_iff_eq] at hr
    exact .inr ⟨r, List.mem_of_find?_eq_some h, hr.1.1, hr.1.2, hr.2, rfl⟩

/-! ## Final characters -/

variable {lo hi n : Nat} {second : Bool} {c d : Char} {s : List Char}

theorem not_in_run_of_misses {r : Nat × Nat × Nat × Int} (h : missesRun lo hi second r = true) (hlo : lo ≤ n)
    (hhi : n ≤ hi) (hsecond : second = true → (n - lo) % 2 = 0) :
    ¬(r.1 ≤ n ∧ n ≤ r.2.1 ∧ (n - r.1) % r.2.2.1 = 0) := by
  rintro ⟨hfirst, hlast, hstride⟩
  simp only [missesRun, Nat.blt_eq, Nat.beq_eq, Bool.or_eq_true, Bool.and_eq_true] at h
  rcases h with (h | h) | ⟨⟨hsec, htwo⟩, hodd⟩
  · omega
  · omega
  · have := hsecond hsec
    rw [htwo] at hstride
    omega

theorem isFinal_of_block (h : isFinalBlock lo hi second = true) (hlo : lo ≤ n) (hhi : n ≤ hi)
    (hsecond : second = true → (n - lo) % 2 = 0) : IsFinal (Char.ofNat n) := by
  simp only [isFinalBlock, Bool.and_eq_true, Bool.or_eq_true, Nat.blt_eq, List.all_eq_true] at h
  obtain ⟨⟨⟨hvalid, hruns⟩, htexts⟩, hblanks⟩ := h
  have hchar : n.isValidChar := by
    unfold Nat.isValidChar
    omega
  have hn : (Char.ofNat n).toNat = n := by
    rw [Char.ofNat, dif_pos hchar]
    rfl
  have hcapital : capitalOf n = n := by
    rcases capitalOf_cases n with h | ⟨r, hr, hfirst, hlast, hstride, -⟩
    · exact h
    · exact absurd ⟨hfirst, hlast, hstride⟩ (not_in_run_of_misses (hruns r hr) hlo hhi hsecond)
  have htext : capitalTexts.lookup n = none := by
    refine List.lookup_eq_none_iff.2 fun e he => bne_iff_ne.2 ?_
    have := htexts e he
    omega
  refine ⟨?_, ?_⟩
  · rw [upperChar, hn, htext, hcapital]
  · rw [isBlank, hn, inRuns, List.any_eq_false]
    intro r hr hin
    have := hblanks r hr
    simp only [Bool.and_eq_true, decide_eq_true_eq] at hin
    omega

/-- **A character is its own capital, or its capital form is made of final characters.** -/
theorem upperChar_cases (c : Char) : upperChar c = [c] ∨ upperChar c ≠ [] ∧ ∀ d ∈ upperChar c, IsFinal d := by
  rw [upperChar]
  cases h : capitalTexts.lookup c.toNat with
  | some ns =>
    obtain ⟨before, after, hmem, -⟩ := List.lookup_eq_some_iff.1 h
    obtain ⟨hne, hall⟩ := isFinalBlock_capitalTexts (c.toNat, ns) (by rw [hmem]; exact List.mem_append_cons_self)
    refine .inr ⟨fun hnil => hne (List.map_eq_nil_iff.1 hnil), fun d hd => ?_⟩
    obtain ⟨n, hn, rfl⟩ := List.mem_map.1 hd
    exact isFinal_of_block (hall n hn) (Nat.le_refl n) (Nat.le_refl n) fun _ => by rw [Nat.sub_self]
  | none =>
    rcases capitalOf_cases c.toNat with hsame | ⟨r, hr, hfirst, hlast, hstride, hcapital⟩
    · exact .inl (by rw [hsame, Char.ofNat_toNat])
    · obtain ⟨hstart, hblock⟩ := isFinalBlock_capitalRuns r hr
      refine .inr ⟨List.cons_ne_nil _ _, fun d hd => ?_⟩
      rw [List.mem_singleton.1 hd, hcapital]
      refine isFinal_of_block hblock (by omega) (by omega) fun hsecond => ?_
      simp only [Bool.or_eq_true, Nat.beq_eq] at hsecond
      rcases hsecond with htwo | hone
      · rw [htwo] at hstride
        omega
      · omega

/-- **What is in a capital form is in capitals.** -/
theorem upperChar_of_mem (h : d ∈ upperChar c) : upperChar d = [d] := by
  rcases upperChar_cases c with hsame | ⟨-, hfinal⟩
  · rw [hsame, List.mem_singleton] at h
    rw [h, hsame]
  · exact (hfinal d h).capital

theorem upper_upper (s : List Char) : upper (upper s) = upper s := by
  have hkeep : ∀ t : List Char, (∀ d ∈ t, upperChar d = [d]) → upper t = t := fun t ht => by
    rw [upper, List.flatMap_congr ht, List.flatMap_singleton']
  refine hkeep _ fun d hd => ?_
  obtain ⟨c, -, hc⟩ := List.mem_flatMap.1 hd
  exact upperChar_of_mem hc

theorem upperChar_ne_nil (c : Char) : upperChar c ≠ [] := by
  rcases upperChar_cases c with hsame | ⟨hne, -⟩
  · rw [hsame]
    exact List.cons_ne_nil c []
  · exact hne

theorem upper_ne_nil (h : s ≠ []) : upper s ≠ [] := by
  obtain ⟨c, t, rfl⟩ := List.exists_cons_of_ne_nil h
  exact fun hnil => upperChar_ne_nil c (List.append_eq_nil_iff.1 hnil).1

/-- **Capitals bring no blanks.** -/
theorem solid_upper (h : ∀ c ∈ s, isBlank c = false) : ∀ d ∈ upper s, isBlank d = false := by
  intro d hd
  obtain ⟨c, hc, hdc⟩ := List.mem_flatMap.1 hd
  rcases upperChar_cases c with hsame | ⟨-, hfinal⟩
  · rw [hsame, List.mem_singleton] at hdc
    rw [hdc]
    exact h c hc
  · exact (hfinal d hdc).solid

end Text
end Clearance

import Clearance.Time.Rfc3339
import Clearance.Proofs.Json.Scalars
import Clearance.Proofs.Time.Calendar
/-!
# Rfc3339 — written moments are read back

Each number is written in its full width, so its reader takes exactly that many digits, whatever follows.
-/
namespace Clearance
namespace Time

open Text (isBlank)

/-- The moment lies in one of the years that are written with four digits. -/
def Instant.HasFourDigitYear (t : Instant) : Prop := 0 ≤ (Date.ofDay t.day).year ∧ (Date.ofDay t.day).year ≤ 9999

instance (t : Instant) : Decidable t.HasFourDigitYear := inferInstanceAs (Decidable (_ ∧ _))

/-! ## Numbers -/

section
variable {width n : Nat} {rest : List Char}

theorem length_padded (hn : n < 10 ^ width) (hwidth : 0 < width) : (padded width n).length = width := by
  have hle : (Nat.toDigits 10 n).length ≤ width := (Nat.length_toDigits_le_iff (by decide) hwidth).2 hn
  simp only [padded, List.length_append, List.length_replicate]
  omega

theorem isDigit_of_mem_padded : ∀ c ∈ padded width n, c.isDigit = true := fun c hc => by
  rcases List.mem_append.1 hc with hc | hc
  · rw [List.eq_of_mem_replicate hc]; decide
  · exact Numeral.isDigit_of_mem_toDigits c hc

theorem ofDigits_padded : ofDigits (padded width n) = n := by
  have hzeros : ∀ k, Nat.ofDigitChars 10 (List.replicate k '0') 0 = 0 := fun k => by
    induction k with
    | zero => rfl
    | succ k ih => rw [List.replicate_succ, Nat.ofDigitChars_cons]; exact ih
  show Numeral.ofDigits (padded width n) = n
  rw [Numeral.ofDigits_eq, padded, Nat.ofDigitChars_append, hzeros, Nat.ofDigitChars_ten_toDigits]

theorem padded_ne_nil (width n : Nat) : padded width n ≠ [] := fun h => Nat.toDigits_ne_nil (List.append_eq_nil_iff.1 h).2

theorem digits?_append {ds : List Char} (hds : ∀ c ∈ ds, c.isDigit = true) (hne : ds ≠ []) (hlength : ds.length ≤ width)
    (hrest : ds.length = width ∨ ∀ c ∈ rest.head?, c.isDigit = false) : digits? width (ds ++ rest) = some (ds, rest) := by
  have htake : ((ds ++ rest).takeWhile Char.isDigit).take width = ds := by
    rw [List.takeWhile_append_of_pos hds]
    rcases hrest with hrest | hrest
    · rw [List.take_left' hrest]
    · have hstop : rest.takeWhile Char.isDigit = [] := by
        cases rest with
        | nil => rfl
        | cons c rest => exact List.takeWhile_cons_of_neg (by simp [hrest c rfl])
      rw [hstop, List.append_nil, List.take_of_length_le hlength]
  rw [digits?, htake, List.isEmpty_eq_false_iff.2 hne, List.drop_left]
  rfl

theorem isBlank_of_isDigit {c : Char} (h : c.isDigit = true) : isBlank c = false := by
  have hrange : 48 ≤ c.toNat ∧ c.toNat ≤ 57 := by
    simpa [Char.isDigit, UInt32.le_iff_toNat_le] using h
  simp only [isBlank, Text.inRuns, Text.blankRuns, List.any_cons, List.any_nil, Bool.or_false, Bool.or_eq_false_iff,
    Bool.and_eq_false_iff, decide_eq_false_iff_not]
  omega

theorem skipBlanks_cons {c : Char} (hc : isBlank c = false) (s : List Char) : skipBlanks (c :: s) = c :: s :=
  List.dropWhile_cons_of_neg (by rw [hc]; exact Bool.false_ne_true)

theorem exists_padded (width n : Nat) : ∃ c t, padded width n = c :: t ∧ c.isDigit = true := by
  obtain ⟨c, t, h⟩ := List.exists_cons_of_ne_nil (padded_ne_nil width n)
  exact ⟨c, t, h, isDigit_of_mem_padded c (h ▸ List.mem_cons_self)⟩

theorem skipBlanks_padded (rest : List Char) : skipBlanks (padded width n ++ rest) = padded width n ++ rest := by
  obtain ⟨c, t, h, hc⟩ := exists_padded width n
  rw [h, List.cons_append, skipBlanks_cons (isBlank_of_isDigit hc)]

variable (hn : n < 10 ^ width) (hwidth : 0 < width)
include hn hwidth

theorem digits?_padded (rest : List Char) : digits? width (padded width n ++ rest) = some (padded width n, rest) :=
  have hlength := length_padded hn hwidth
  digits?_append isDigit_of_mem_padded (padded_ne_nil _ _) hlength.le (.inl hlength)

theorem number?_padded (rest : List Char) : number? width (padded width n ++ rest) = some (n, rest) := by
  rw [number?, skipBlanks_padded, digits?_padded hn hwidth, Option.map_some, ofDigits_padded]

end

theorem mark?_cons {c : Char} (hc : isBlank c = false) (s : List Char) : mark? c (c :: s) = some s := by
  rw [mark?, skipBlanks_cons hc]
  exact if_pos rfl

theorem year?_writeYear {y : Int} (hlow : 0 ≤ y) (hhigh : y ≤ 9999) (rest : List Char) :
    year? (writeYear y ++ rest) = some (y, rest) := by
  have hwrite : writeYear y = padded 4 y.toNat := by simp [writeYear, hlow, hhigh]
  have hdigits : digits? 4 (padded 4 y.toNat ++ rest) = some (padded 4 y.toNat, rest) :=
    digits?_padded (by omega) (by decide) rest
  obtain ⟨c, t, hp, hc⟩ := exists_padded 4 y.toNat
  have hplus : c ≠ '+' := by rintro rfl; exact absurd hc (by decide)
  have hminus : c ≠ '-' := by rintro rfl; exact absurd hc (by decide)
  have hvalue : Int.ofNat (ofDigits (padded 4 y.toNat)) = y := by rw [ofDigits_padded]; exact Int.toNat_of_nonneg hlow
  rw [hwrite, year?, skipBlanks_padded]
  rw [hp, List.cons_append] at hdigits ⊢
  split
  · rename_i h; exact absurd (List.cons.inj h).1 hplus
  · rename_i h; exact absurd (List.cons.inj h).1 hminus
  · rw [hdigits, Option.map_some, ← hp, hvalue]

theorem fraction?_padded {digits n : Nat} (hdigits : 0 < digits) (hle : digits ≤ 9) (hn : n < 10 ^ digits)
    {c : Char} (hc : c.isDigit = false) (rest : List Char) :
    fraction? ('.' :: (padded digits n ++ c :: rest)) = some (n * 10 ^ (9 - digits), c :: rest) := by
  have hlength := length_padded hn hdigits
  have hread : digits? 9 (padded digits n ++ c :: rest) = some (padded digits n, c :: rest) :=
    digits?_append isDigit_of_mem_padded (padded_ne_nil _ _) (hlength.trans_le hle) (.inr fun d hd => Option.some.inj hd ▸ hc)
  have hdrop : (c :: rest).dropWhile Char.isDigit = c :: rest := List.dropWhile_cons_of_neg (by simp [hc])
  simp only [fraction?, hread, Option.map_some, ofDigits_padded, hlength, hdrop, Nat.pow_eq]

theorem fraction?_writeFraction {nano : Nat} (hnano : nano < 1000000000) {c : Char} (hc : c.isDigit = false)
    (hpoint : c ≠ '.') (rest : List Char) :
    fraction? (writeFraction nano ++ c :: rest) = some (nano, c :: rest) := by
  unfold writeFraction
  split
  · rename_i hzero
    rw [List.nil_append, fraction?, hzero]
    exact fun r h => hpoint (List.cons.inj h).1
  split
  · rw [List.cons_append, fraction?_padded (by decide) (by decide) (by omega) hc]
    exact congrArg (fun k => some (k, c :: rest)) (by omega)
  split
  · rw [List.cons_append, fraction?_padded (by decide) (by decide) (by omega) hc]
    exact congrArg (fun k => some (k, c :: rest)) (by omega)
  · rw [List.cons_append, fraction?_padded (by decide) (by decide) (by omega) hc]
    exact congrArg (fun k => some (k, c :: rest)) (by omega)

/-! ## Moments -/

theorem ofParts?_self (t : Instant) : Instant.ofParts? t.day t.second t.nano = some t :=
  dif_pos ⟨t.second_lt, t.nano_lt, t.leap_at_end⟩

theorem moment?_parts {t : Instant} (h : t.HasFourDigitYear) {second nano : Nat} (hsecond : second ≤ 60)
    (hparts : (if second = 60 then 59 else second) = t.second % 60 ∧
      (if second = 60 then nano + 1000000000 else nano) = t.nano) :
    moment? (Date.ofDay t.day) t.hour t.minute second nano 0 = some t := by
  obtain ⟨hlow, hhigh⟩ := h
  have hlt := t.second_lt
  have hrange : inRange t.day = true := by
    have hfrom : -262143 ≤ (Date.ofDay t.day).year := by omega
    have hto : (Date.ofDay t.day).year ≤ 262142 := by omega
    simp [inRange, yearRange, hfrom, hto]
  have hsum : t.hour * 3600 + t.minute * 60 + t.second % 60 = t.second := by
    simp only [Instant.hour, Instant.minute]
    omega
  have hhour : t.hour < 24 := by simp only [Instant.hour]; omega
  have hminute : t.minute < 60 := by simp only [Instant.minute]; omega
  have hday : t.day + Int.ofNat t.second / 86400 = t.day := by simp only [Int.ofNat_eq_natCast]; omega
  have hrest : (Int.ofNat t.second % 86400).toNat = t.second := by simp only [Int.ofNat_eq_natCast]; omega
  simp only [moment?, Date.isValid_ofDay, Date.toDay_ofDay, hrange, hhour, hminute, hsecond, hparts.1, hparts.2, hsum,
    Int.natAbs_zero, Nat.reduceMul, Nat.ofNat_pos, decide_true, Bool.and_self, if_true, Int.zero_mul, Int.sub_zero,
    hday, hrest, ofParts?_self]

theorem exists_writeSecond (t : Instant) : ∃ second nano, second ≤ 60 ∧ nano < 1000000000 ∧
    writeSecond t = padded 2 second ++ writeFraction nano ∧
    (if second = 60 then 59 else second) = t.second % 60 ∧ (if second = 60 then nano + 1000000000 else nano) = t.nano := by
  have hmod : t.second % 60 < 60 := Nat.mod_lt _ (by decide)
  have hnano := t.nano_lt
  -- a leap second is held as the second billion of nanoseconds of a second 59, and is written as second 60
  by_cases hleap : t.nano < 1000000000
  · refine ⟨t.second % 60, t.nano, by omega, hleap, ?_, ?_, ?_⟩
    · rw [writeSecond, if_pos hleap]
    · rw [if_neg (by omega)]
    · rw [if_neg (by omega)]
  · have hlast := t.leap_at_end (by omega)
    refine ⟨t.second % 60 + 1, t.nano - 1000000000, by omega, by omega, ?_, ?_, ?_⟩
    · rw [writeSecond, if_neg hleap]
    · rw [if_pos (by omega), hlast]
    · rw [if_pos (by omega)]; omega

/-- **A written moment is read back**, leap seconds included. -/
theorem read?_write (t : Instant) (h : t.HasFourDigitYear) : read? (write t) = some t := by
  obtain ⟨second, nano, hsecond, hnano, hwrite, hparts⟩ := exists_writeSecond t
  have hlt := t.second_lt
  obtain ⟨hmonth, hday⟩ : (Date.ofDay t.day).month < 10 ^ 2 ∧ (Date.ofDay t.day).day < 10 ^ 2 := Date.ofDay_lt t.day
  have hhour : t.hour < 10 ^ 2 := by simp only [Instant.hour]; omega
  have hminute : t.minute < 10 ^ 2 := by simp only [Instant.minute]; omega
  have htext : write t = writeYear (Date.ofDay t.day).year ++ '-' :: (padded 2 (Date.ofDay t.day).month ++ '-' ::
      (padded 2 (Date.ofDay t.day).day ++ 'T' :: (padded 2 t.hour ++ ':' :: (padded 2 t.minute ++ ':' ::
        (padded 2 second ++ (writeFraction nano ++ 'Z' :: [])))))) := by
    simp [write, writeDate, hwrite]
  have hdash : isBlank '-' = false := by decide
  have hcolon : isBlank ':' = false := by decide
  have hZ : isBlank 'Z' = false := by decide
  have hoffset : offset? ['Z'] = some (0, []) := by decide
  rw [htext]
  simp only [read?, bind, Option.bind, year?_writeYear h.1 h.2, mark?_cons hdash, mark?_cons hcolon,
    number?_padded hmonth (by decide), number?_padded hday (by decide), number?_padded hhour (by decide),
    number?_padded hminute (by decide), number?_padded (show second < 10 ^ 2 by omega) (by decide),
    fraction?_writeFraction hnano (show Char.isDigit 'Z' = false by decide) (show 'Z' ≠ '.' by decide),
    skipBlanks_cons hZ, hoffset]
  exact moment?_parts h hsecond hparts

end Time
end Clearance

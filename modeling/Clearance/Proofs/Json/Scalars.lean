import Mathlib.Data.List.TakeWhile
import Mathlib.Tactic.IntervalCases
import Clearance.Json.Reader
/-!
# Scalars — written numbers and texts are read back

A numeral is read up to the first character that cannot continue it, and a quoted text up to its closing mark, whatever
follows.  Integers and texts are read as they were written; of a real number the same is said only where it holds
(`ReadsBack`), because its reader does not always hit the nearest double.
-/
namespace Clearance

deriving instance DecidableEq for Number

namespace Numeral

/-- The shortest digits of a number are read as that number. -/
def ReadsBack (x : Float) : Prop := ∃ m, scan (Decimal.text x) = .ok (m, []) ∧ m.value? = some (.real x)

instance : DecidablePred ReadsBack := fun x =>
  match h : scan (Decimal.text x) with
  | .ok (m, []) =>
    decidable_of_iff (m.value? = some (.real x))
      ⟨fun hvalue => ⟨m, h, hvalue⟩, fun ⟨m', h', hvalue⟩ => by cases h.symm.trans h'; exact hvalue⟩
  | .ok (_, _ :: _) => .isFalse fun ⟨_, h', _⟩ => by cases h.symm.trans h'
  | .error _ => .isFalse fun ⟨_, h', _⟩ => by cases h.symm.trans h'

/-- What follows a numeral does not continue it. -/
def Ends (rest : List Char) : Prop := ∀ c ∈ rest.head?, c.isDigit = false ∧ c ≠ '.' ∧ c ≠ 'e' ∧ c ≠ 'E'

/-- The integers that 64 bits hold, with a sign or without. -/
def Fits (n : Int) : Prop := -9223372036854775808 ≤ n ∧ n ≤ 18446744073709551615

/-! ## Digits -/

theorem ofDigits_eq (ds : List Char) : ofDigits ds = Nat.ofDigitChars 10 ds 0 := by
  rw [ofDigits, Nat.ofDigitChars_eq_foldl]
  refine congrArg (fun f => ds.foldl f 0) ?_
  funext n c
  rw [digitValue, Nat.mul_comm]

theorem ofDigits_toDigits (n : Nat) : ofDigits (Nat.toDigits 10 n) = n := by
  rw [ofDigits_eq, Nat.ofDigitChars_ten_toDigits]

theorem isDigit_of_mem_toDigits {n : Nat} : ∀ c ∈ Nat.toDigits 10 n, c.isDigit = true := fun _ =>
  Nat.isDigit_of_mem_toDigits (by decide) (by decide)

theorem head?_toDigits (n : Nat) (hn : 0 < n) : (Nat.toDigits 10 n).head? ≠ some '0' := by
  induction n using Nat.strongRecOn with
  | ind n ih =>
    by_cases hlt : n < 10
    · rw [Nat.toDigits_of_lt_base hlt]
      interval_cases n <;> decide
    · have hhead := ih (n / 10) (by omega) (by omega)
      obtain ⟨c, cs, hcs⟩ := List.exists_cons_of_ne_nil (Nat.toDigits_ne_nil (n := n / 10) (b := 10))
      rw [Nat.toDigits_of_base_le (by decide) (Nat.not_lt.1 hlt), hcs]
      rwa [hcs] at hhead

/-! ## Scanning -/

section
variable {s r rest : List Char}

theorem span_append {p : Char → Bool} (h : ∀ c ∈ rest.head?, p c = false) : ∀ s : List Char,
    (s ++ rest).takeWhile p = s.takeWhile p ∧ (s ++ rest).dropWhile p = s.dropWhile p ++ rest
  | [] => by
    cases rest with
    | nil => exact ⟨rfl, rfl⟩
    | cons c rest => simp [h c rfl]
  | c :: s => by
    obtain ⟨htake, hdrop⟩ := span_append h s
    cases hc : p c with
    | false => simp [hc]
    | true => simp [hc, htake, hdrop]

theorem scanDigits_append {ds : List Char} (h : scanDigits s = .ok (ds, r)) (hrest : Ends rest) :
    scanDigits (s ++ rest) = .ok (ds, r ++ rest) := by
  obtain ⟨htake, hdrop⟩ := span_append (fun c hc => (hrest c hc).1) s
  rw [scanDigits] at h ⊢
  rw [htake, hdrop]
  by_cases hempty : (s.takeWhile Char.isDigit).isEmpty
  · rw [if_pos hempty] at h
    cases h
  · rw [if_neg hempty] at h ⊢
    cases h
    rfl

theorem scanWhole_append {ds : List Char} (h : scanWhole s = .ok (ds, r)) (hrest : Ends rest) :
    scanWhole (s ++ rest) = .ok (ds, r ++ rest) := by
  rw [scanWhole] at h ⊢
  cases hds : scanDigits s with
  | error f => rw [hds] at h; cases h
  | ok p =>
    obtain ⟨ds', r'⟩ := p
    rw [hds] at h
    rw [scanDigits_append hds hrest]
    simp only [bind, Except.bind] at h ⊢
    split at h
    · cases h
    · rename_i hzero
      rw [if_neg hzero]
      cases h
      rfl

theorem scanFraction_of_ne (h : ∀ c ∈ s.head?, c ≠ '.') : scanFraction s = .ok (none, s) := by
  rw [scanFraction]
  rintro r rfl
  exact h '.' rfl rfl

theorem scanFraction_append {f : Option (List Char)} (h : scanFraction s = .ok (f, r)) (hrest : Ends rest) :
    scanFraction (s ++ rest) = .ok (f, r ++ rest) := by
  -- without a point there is no fraction, and what follows does not begin with one
  by_cases hpoint : ∀ c ∈ s.head?, c ≠ '.'
  · rw [scanFraction_of_ne hpoint] at h
    cases h
    refine scanFraction_of_ne fun c hc => ?_
    rw [List.head?_append, Option.mem_def, Option.or_eq_some_iff] at hc
    rcases hc with hc | ⟨-, hc⟩
    · exact hpoint c hc
    · exact (hrest c hc).2.1
  · match s with
    | [] => exact absurd (fun _ hc => nomatch hc) hpoint
    | c :: s =>
      obtain rfl : c = '.' := by
        by_contra hc
        exact hpoint fun d hd => Option.some.inj hd ▸ hc
      simp only [scanFraction, List.cons_append] at h ⊢
      cases hds : scanDigits s with
      | error e => rw [hds] at h; cases h
      | ok p =>
        rw [hds] at h
        cases h
        rw [scanDigits_append hds hrest]
        rfl

/-- The digits of an exponent, whose sign is known. -/
def scanSigned (negative : Bool) (s : List Char) : Except Fault (Option (Bool × List Char) × List Char) :=
  (scanDigits s).map fun p => (some (negative, p.1), p.2)

theorem scanSigned_append {negative : Bool} {e : Option (Bool × List Char)}
    (h : scanSigned negative s = .ok (e, r)) (hrest : Ends rest) :
    scanSigned negative (s ++ rest) = .ok (e, r ++ rest) := by
  rw [scanSigned] at h ⊢
  cases hds : scanDigits s with
  | error f => rw [hds] at h; cases h
  | ok p =>
    rw [hds] at h
    cases h
    rw [scanDigits_append hds hrest]
    rfl

theorem scanExponent_of_ne (h : ∀ c ∈ s.head?, c ≠ 'e' ∧ c ≠ 'E') : scanExponent s = .ok (none, s) := by
  match s with
  | [] => rfl
  | c :: s => simp [scanExponent, h c rfl]

theorem scanExponent_of_mark {c d : Char} (hc : c = 'e' ∨ c = 'E') (s : List Char) : scanExponent (c :: d :: s) =
    if d = '-' then scanSigned true s else if d = '+' then scanSigned false s else scanSigned false (d :: s) := by
  have hmark : (decide (c = 'e') || decide (c = 'E')) = true := by simpa using hc
  simp only [scanExponent, hmark, if_true]
  split
  · rename_i hd; cases hd; rfl
  · rename_i hd; cases hd; rfl
  · rename_i hminus hplus
    rw [if_neg fun hd => hminus s (by rw [hd]), if_neg fun hd => hplus s (by rw [hd])]
    rfl

theorem scanExponent_append {e : Option (Bool × List Char)} (h : scanExponent s = .ok (e, r)) (hrest : Ends rest) :
    scanExponent (s ++ rest) = .ok (e, r ++ rest) := by
  by_cases hmark : ∀ c ∈ s.head?, c ≠ 'e' ∧ c ≠ 'E'
  · rw [scanExponent_of_ne hmark] at h
    cases h
    refine scanExponent_of_ne fun c hc => ?_
    rw [List.head?_append, Option.mem_def, Option.or_eq_some_iff] at hc
    rcases hc with hc | ⟨-, hc⟩
    · exact hmark c hc
    · exact (hrest c hc).2.2
  · match s with
    | [] => exact absurd (fun _ hc => nomatch hc) hmark
    | [c] =>
      have hc : c = 'e' ∨ c = 'E' := by
        by_contra hc
        exact hmark fun d hd => not_or.1 (Option.some.inj hd ▸ hc)
      rcases hc with rfl | rfl <;> cases h
    | c :: d :: s =>
      have hc : c = 'e' ∨ c = 'E' := by
        by_contra hc
        exact hmark fun d hd => not_or.1 (Option.some.inj hd ▸ hc)
      rw [scanExponent_of_mark hc] at h
      rw [List.cons_append, List.cons_append, scanExponent_of_mark hc]
      split at h
      · rw [if_pos ‹_›]; exact scanSigned_append h hrest
      · rw [if_neg ‹_›]
        split at h
        · rw [if_pos ‹_›]; exact scanSigned_append h hrest
        · rw [if_neg ‹_›]; exact scanSigned_append h hrest

/-- The parts of a numeral behind its sign. -/
def scanUnsigned (negative : Bool) (s : List Char) : Except Fault (Numeral × List Char) := do
  let (whole, s) ← scanWhole s
  let (fraction, s) ← scanFraction s
  let (exponent, s) ← scanExponent s
  return (⟨negative, whole, fraction, exponent⟩, s)

theorem scan_minus (s : List Char) : scan ('-' :: s) = scanUnsigned true s := rfl

theorem scan_of_ne (h : ∀ c ∈ s.head?, c ≠ '-') : scan s = scanUnsigned false s := by
  rw [scan]
  · rfl
  · rintro r rfl
    exact h '-' rfl rfl

theorem scanUnsigned_append {negative : Bool} {m : Numeral} (h : scanUnsigned negative s = .ok (m, r))
    (hrest : Ends rest) : scanUnsigned negative (s ++ rest) = .ok (m, r ++ rest) := by
  rw [scanUnsigned] at h ⊢
  cases hw : scanWhole s with
  | error f => rw [hw] at h; cases h
  | ok p =>
    rw [hw] at h
    rw [scanWhole_append hw hrest]
    simp only [bind, Except.bind] at h ⊢
    cases hf : scanFraction p.2 with
    | error f => rw [hf] at h; cases h
    | ok p' =>
      rw [hf] at h
      rw [scanFraction_append hf hrest]
      simp only at h ⊢
      cases he : scanExponent p'.2 with
      | error f => rw [he] at h; cases h
      | ok p'' =>
        rw [he] at h
        rw [scanExponent_append he hrest]
        cases h
        rfl

/-- **A numeral is read up to what does not continue it.** -/
theorem scan_append {m : Numeral} (h : scan s = .ok (m, r)) (hrest : Ends rest) :
    scan (s ++ rest) = .ok (m, r ++ rest) := by
  match s with
  | [] => cases h
  | c :: s =>
    by_cases hc : c = '-'
    · subst hc
      exact scanUnsigned_append h hrest
    · have hne : ∀ t : List Char, ∀ d ∈ (c :: t).head?, d ≠ '-' := fun t d hd => Option.some.inj hd ▸ hc
      rw [scan_of_ne (hne s)] at h
      rw [List.cons_append, scan_of_ne (hne _)]
      exact scanUnsigned_append h hrest

theorem head?_of_scan {m : Numeral} (h : scan s = .ok (m, r)) : ∃ c t, s = c :: t ∧ (c = '-' ∨ c.isDigit = true) := by
  match s with
  | [] => cases h
  | c :: s =>
    refine ⟨c, s, rfl, ?_⟩
    by_contra hc
    obtain ⟨hminus, hdigit⟩ := not_or.1 hc
    have hne : ∀ d ∈ (c :: s).head?, d ≠ '-' := fun d hd => Option.some.inj hd ▸ hminus
    rw [scan_of_ne hne, scanUnsigned, scanWhole, scanDigits, List.takeWhile_cons_of_neg hdigit] at h
    cases h

/-! ## Integers -/

theorem scanUnsigned_toDigits (negative : Bool) (n : Nat) :
    scanUnsigned negative (Nat.toDigits 10 n) = .ok (⟨negative, Nat.toDigits 10 n, none, none⟩, []) := by
  have hdigits : scanDigits (Nat.toDigits 10 n) = .ok (Nat.toDigits 10 n, []) := by
    have hall := isDigit_of_mem_toDigits (n := n)
    rw [scanDigits, List.takeWhile_eq_self_iff.2 hall, List.dropWhile_eq_nil_iff.2 hall, if_neg]
    simp
  have hwhole : scanWhole (Nat.toDigits 10 n) = .ok (Nat.toDigits 10 n, []) := by
    rw [scanWhole, hdigits]
    simp only [bind, Except.bind]
    rw [if_neg]
    rintro hzero
    simp only [Bool.and_eq_true, decide_eq_true_eq] at hzero
    obtain ⟨hhead, hlength⟩ := hzero
    rcases Nat.eq_zero_or_pos n with rfl | hn
    · exact hlength rfl
    · exact head?_toDigits n hn hhead
  rw [scanUnsigned, hwhole]
  rfl

theorem scan_writeInt (n : Int) :
    scan (writeInt n) = .ok (⟨decide (n < 0), Nat.toDigits 10 n.natAbs, none, none⟩, []) := by
  rw [writeInt]
  by_cases hn : n < 0
  · rw [if_pos hn, decide_eq_true hn, scan_minus, scanUnsigned_toDigits]
  · have hne : ∀ c ∈ (Nat.toDigits 10 n.natAbs).head?, c ≠ '-' := by
      rintro c hc rfl
      exact absurd (isDigit_of_mem_toDigits _ (List.mem_of_mem_head? hc)) (by decide)
    rw [if_neg hn, decide_eq_false hn, scan_of_ne hne, scanUnsigned_toDigits]

theorem value?_writeInt {n : Int} (h : Fits n) :
    value? ⟨decide (n < 0), Nat.toDigits 10 n.natAbs, none, none⟩ = some (.int n) := by
  obtain ⟨hlow, hhigh⟩ := h
  rw [value?]
  simp only [ofDigits_toDigits, Option.isNone_none, Bool.true_and, wordMax]
  by_cases hn : n < 0
  · have habs : -(n.natAbs : Int) = n := by omega
    rw [if_neg (by simp [hn]), if_pos]
    · exact congrArg (fun k => some (Number.int k)) habs
    · have hpos : n.natAbs ≠ 0 := by omega
      have hle : n.natAbs ≤ 9223372036854775808 := by omega
      simp only [hn, hpos, hle, decide_true, decide_not, decide_false, Bool.not_false, Bool.and_self]
  · have habs : (n.natAbs : Int) = n := by omega
    rw [if_pos]
    · exact congrArg (fun k => some (Number.int k)) habs
    · have hle : n.natAbs ≤ 18446744073709551615 := by omega
      simp only [hn, hle, decide_true, decide_false, Bool.not_false, Bool.and_self]

end

end Numeral

namespace Quoted

theorem unit?_control : ∀ n < 32, unit? '0' '0' (hexDigit (n / 16)) (hexDigit (n % 16)) = some n := by decide

theorem scan_simple {c e : Char} (h : simpleEscape? c = some e) (t : List Char) :
    scan none ('\\' :: c :: t) = (scan none t).push e := by
  have hne : c ≠ 'u' := by
    rintro rfl
    cases h
  rw [scan, h]
  · rfl
  · intro a b d e' r hu
    exact absurd hu hne
  · exact hne

theorem scan_control {n : Nat} (hn : n < 32) (t : List Char) :
    scan none ('\\' :: 'u' :: '0' :: '0' :: hexDigit (n / 16) :: hexDigit (n % 16) :: t) =
      (scan none t).push (Char.ofNat n) := by
  have hlow : isLow n = false := by simp [isLow]; omega
  have hhigh : isHigh n = false := by simp [isHigh]; omega
  rw [scan.eq_6 _ _ _ _ t n (unit?_control n hn), hlow, hhigh]
  rfl

theorem scan_plain {c : Char} (hquote : c ≠ '"') (hslash : c ≠ '\\') (hc : ¬c.toNat < 32) (t : List Char) :
    scan none (c :: t) = (scan none t).push c := by
  rw [scan, if_neg hc]
  · rfl
  · exact hquote
  all_goals
    intros
    contradiction

/-- **An escaped character is read back**, whatever follows. -/
theorem scan_escapeChar (c : Char) (t : List Char) : scan none (escapeChar c ++ t) = (scan none t).push c := by
  have hcode : ∀ {n : Nat}, c.toNat = n → Char.ofNat n = c := fun h => h ▸ Char.ofNat_toNat c
  unfold escapeChar
  split
  · subst c; exact scan_simple rfl t
  split
  · subst c; exact scan_simple rfl t
  split
  · subst c; exact scan_simple rfl t
  split
  · subst c; exact scan_simple rfl t
  split
  · subst c; exact scan_simple rfl t
  split
  · rename_i h; rw [← hcode h]; exact scan_simple rfl t
  split
  · rename_i h; rw [← hcode h]; exact scan_simple rfl t
  split
  · rename_i h; exact (scan_control h t).trans (by rw [hcode rfl])
  · rename_i hquote hslash _ _ _ _ _ hc
    exact scan_plain hquote hslash hc t

/-- **An escaped text is read back** up to its closing mark. -/
theorem scan_escape (r : List Char) : ∀ s : List Char, scan none (escape s ++ '"' :: r) = ⟨.ok s, .ok r⟩
  | [] => rfl
  | c :: s => by
    have hsplit : escape (c :: s) ++ '"' :: r = escapeChar c ++ (escape s ++ '"' :: r) := by
      rw [escape, List.flatMap_cons, List.append_assoc]; rfl
    rw [hsplit, scan_escapeChar, scan_escape r s]
    rfl

theorem write_append (w : String) (r : List Char) : write w ++ r = '"' :: (escape w.toList ++ '"' :: r) := by
  simp [write]

/-- **A written text says itself where it ends**: two of them that begin alike are the same. -/
theorem write_append_inj {v w : String} {r t : List Char} (h : write v ++ r = write w ++ t) : v = w ∧ r = t := by
  rw [write_append, write_append] at h
  have hscan := congrArg (scan none) (List.cons.inj h).2
  rw [scan_escape, scan_escape, Scanned.mk.injEq, Except.ok.injEq, Except.ok.injEq] at hscan
  exact ⟨String.toList_inj.1 hscan.1, hscan.2⟩

end Quoted
end Clearance

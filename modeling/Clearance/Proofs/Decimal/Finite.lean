import Mathlib
/-!
# Finite — arithmetic of doubles that does not leave the finite numbers

A double is infinite where its exponent is too large.  Rounding adds at most one to the exponent that a number has
anyway, so a quotient stays finite if the divisor is at least two; a product is finite if it is not infinite.
-/
namespace Clearance
namespace Binary64

open Float.Model Float.Model.UnpackedFloat

/-- A number that a double can hold. -/
def Small : UnpackedFloat → Prop
  | .zero _ => True
  | .finite _ _ e _ => e ≤ 971
  | _ => False

/-- The eleven bits of a double that hold its exponent. -/
def exponentBits (f : Float.Model) : BitVec 11 := @unpackExponent .binary64 f.toBits.toBitVec

theorem isFinite_iff (f : Float.Model) : f.isFinite = true ↔ exponentBits f ≠ -1#11 := by
  rw [Float.Model.isFinite, Float.Model.unpack, UnpackedFloat.unpack]
  by_cases hexponent : exponentBits f = -1#11
  · rw [exponentBits] at hexponent
    simp only [exponentBits, hexponent, if_true, ne_eq, not_true_eq_false, iff_false]
    split <;> simp [UnpackedFloat.isFinite]
  · rw [exponentBits] at hexponent
    simp only [exponentBits, hexponent, if_false, ne_eq, not_false_eq_true, iff_true]
    split
    · split <;> rfl
    · rfl

theorem exponentBits_pack (u : UnpackedFloat) :
    exponentBits (Float.Model.pack u) = @unpackExponent .binary64 (UnpackedFloat.pack .binary64 u) := rfl

theorem isFinite_pack {u : UnpackedFloat} (h : Small u) : (Float.Model.pack u).isFinite = true := by
  rw [isFinite_iff, exponentBits_pack]
  cases u with
  | infinity s => exact h.elim
  | notANumber => exact h.elim
  | zero s =>
    rw [UnpackedFloat.pack, packedZero, unpackExponent_packComponents]
    decide
  | finite s m e hm =>
    have he : e ≤ 971 := h
    have hfits : ¬2 ^ 11 ≤ (e + (1023 : Nat) + (52 : Nat)).toNat + 1 := by omega
    have hones : (-1#11).toNat = 2047 := by decide
    have hpack : UnpackedFloat.pack .binary64 (.finite s m e hm) =
        if m.log2 + 1 = 53 then
          packComponents .binary64 s (BitVec.ofNat 11 (e + (1023 : Nat) + (52 : Nat)).toNat) (BitVec.ofNat 52 m)
        else packComponents .binary64 s 0#11 (BitVec.ofNat 52 m) := if_neg hfits
    rw [hpack]
    split
    · rw [unpackExponent_packComponents]
      intro hexponent
      have htoNat := congrArg BitVec.toNat hexponent
      rw [BitVec.toNat_ofNat, hones] at htoNat
      omega
    · rw [unpackExponent_packComponents]
      decide

theorem bounds_of_unpack {f : Float.Model} {s : Sign} {m : Nat} {e : Int} {hm : 0 < m}
    (h : f.unpack = .finite s m e hm) : m < 2 ^ 53 ∧ e ≤ 971 := by
  have hmantissa : (@unpackMantissa .binary64 f.toBits.toBitVec).toNat < 2 ^ 52 := BitVec.isLt _
  have hexponent : (exponentBits f).toNat < 2 ^ 11 := BitVec.isLt _
  have hones : (-1#11).toNat = 2047 := by decide
  rw [Float.Model.unpack, UnpackedFloat.unpack] at h
  split at h
  · split at h <;> cases h
  · rename_i hmax
    have hbelow : (exponentBits f).toNat ≠ 2047 := fun he => hmax (BitVec.eq_of_toNat_eq (he.trans hones.symm))
    split at h
    · rename_i hzero
      have hnone : (exponentBits f).toNat = 0 := congrArg BitVec.toNat hzero
      split at h
      · cases h
      · injection h with _ hm' he'
        have hplace : ((exponentBits f).toNat : Int) - ((1023 : Nat) + (52 : Nat)) + 1 = e := he'
        omega
    · injection h with _ hm' he'
      have hplace : ((exponentBits f).toNat : Int) - ((1023 : Nat) + (52 : Nat)) = e := he'
      refine ⟨?_, by omega⟩
      rw [← hm']
      exact BitVec.isLt _

/-! ## Rounding -/

theorem mantissa_shiftRight (em : ExtendedMantissa) : ∀ k : Nat, (em >>> k).mantissa = em.mantissa / 2 ^ k
  | 0 => (Nat.div_one _).symm
  | k + 1 => by
    have hstep : (em >>> (k + 1)).mantissa = (em >>> k).mantissa / 2 := rfl
    rw [hstep, mantissa_shiftRight em k, Nat.div_div_eq_div_mul, Nat.pow_succ]

theorem roundedMantissa_le (em : ExtendedMantissa) : em.roundedMantissa ≤ em.mantissa + 1 := by
  obtain ⟨m, r, s⟩ := em
  cases r <;> cases s <;>
    simp only [ExtendedMantissa.roundedMantissa, ExtendedMantissa.accuracy, Accuracy.roundToNearestEven] <;> omega

theorem mantissa_ofMantissaAndAccuracy (m : Nat) (a : Accuracy) :
    (ExtendedMantissa.ofMantissaAndAccuracy m a).mantissa = m := by
  cases a with
  | exact => rfl
  | inexact o => cases o <;> rfl

theorem targetExponent_eq (t : Int) : Format.binary64.targetExponent t = max (t - 53) (-1074) := rfl

theorem log2_le {n k : Nat} (h : n < 2 ^ (k + 1)) : n.log2 ≤ k := by
  by_cases hn : n = 0
  · rw [hn]
    exact Nat.zero_le k
  · exact Nat.le_of_lt_succ ((Nat.log2_lt hn).2 h)

theorem log2_shiftLeft_le {n j : Nat} (h : n < 2 ^ (j + 1)) (k : Nat) : (n <<< k).log2 ≤ j + k := by
  refine log2_le ?_
  rw [Nat.shiftLeft_eq, Nat.add_right_comm, Nat.pow_add]
  exact Nat.mul_lt_mul_of_pos_right h (Nat.two_pow_pos k)

theorem shiftToTargetExponent_spec (m : Nat) (e : Int) (a : Accuracy) :
    (shiftToTargetExponent .binary64 m e a).2 = max e (max (totalExponent m e - 53) (-1074)) ∧
      (shiftToTargetExponent .binary64 m e a).1.mantissa < 2 ^ 53 := by
  rw [shiftToTargetExponent, shiftToExponent, targetExponent_eq]
  generalize hshift : (max (totalExponent m e - 53) (-1074) - e).toNat = k
  simp only [mantissa_shiftRight, mantissa_ofMantissaAndAccuracy]
  refine ⟨by omega, ?_⟩
  have hdigits : m.log2 + 1 ≤ 53 + k := by
    rw [totalExponent] at hshift
    omega
  rw [Nat.div_lt_iff_lt_mul (Nat.two_pow_pos k), ← Nat.pow_add]
  exact Nat.lt_of_lt_of_le Nat.lt_log2_self (Nat.pow_le_pow_right (by decide) hdigits)

theorem small_roundWithAccuracy {m : Nat} {e : Int} (he : e ≤ 970) (ht : totalExponent m e ≤ 1023) (s : Sign)
    (a : Accuracy) : Small (roundWithAccuracy .binary64 s m e a) := by
  obtain ⟨hplace, hdigits⟩ := shiftToTargetExponent_spec m e a
  rw [roundWithAccuracy]
  generalize shiftToTargetExponent .binary64 m e a = first at *
  obtain ⟨em, e₁⟩ := first
  simp only at hplace hdigits ⊢
  -- rounding up may carry into a 54th digit, and only then does the second shift move the place, by one
  have hround : em.roundedMantissa ≤ 2 ^ 53 := Nat.le_trans (roundedMantissa_le em) hdigits
  have hlog : em.roundedMantissa.log2 ≤ 53 := log2_le (Nat.lt_of_le_of_lt hround (by decide))
  have hlast := (shiftToTargetExponent_spec em.roundedMantissa e₁ .exact).1
  split
  · trivial
  · show (shiftToTargetExponent .binary64 em.roundedMantissa e₁ .exact).2 ≤ 971
    rw [hlast, totalExponent]
    omega

/-! ## Arithmetic -/

theorem small_unpack {f : Float.Model} (h : f.isFinite = true) : Small f.unpack := by
  rw [Float.Model.isFinite] at h
  cases hf : f.unpack with
  | infinity s => rw [hf] at h; cases h
  | notANumber => rw [hf] at h; cases h
  | zero s => trivial
  | finite s m e hm => exact (bounds_of_unpack hf).2

theorem isFinite_neg {x : Float} (h : x.isFinite = true) : (-x).isFinite = true := by
  have hx : Small x.toModel.unpack := small_unpack h
  show (Float.Model.pack x.toModel.unpack.neg).isFinite = true
  refine isFinite_pack ?_
  cases hu : x.toModel.unpack with
  | infinity s => rw [hu] at hx; exact hx
  | notANumber => rw [hu] at hx; exact hx
  | zero s => trivial
  | finite s m e hm => rw [hu] at hx; exact hx

theorem isFinite_toFloat (n : UInt64) : n.toFloat.isFinite = true := by
  show (Float.Model.pack (UnpackedFloat.normalize .binary64 (n.toNat : Int) 0 .positive)).isFinite = true
  refine isFinite_pack ?_
  have hn : n.toNat < 2 ^ 64 := n.toNat_lt
  rw [UnpackedFloat.normalize]
  rcases Nat.eq_zero_or_pos n.toNat with hzero | hpos
  · rw [hzero]
    trivial
  · rw [Int.compare_eq_gt.2 (by omega)]
    simp only [Int.toNat_natCast]
    rw [UnpackedFloat.round, decreaseExponent]
    generalize (0 - Format.binary64.targetExponent (totalExponent n.toNat 0)).toNat = k
    have hlog : (n.toNat <<< k).log2 ≤ 63 + k := log2_shiftLeft_le hn k
    exact small_roundWithAccuracy (by omega) (by rw [totalExponent]; omega) _ _

theorem isInf_packedInfinity (s : Sign) {f : Float.Model} (h : f.toBits.toBitVec = packedInfinity .binary64 s) :
    f.isInf = true := by
  rw [Float.Model.isInf, Float.Model.unpack, h, UnpackedFloat.unpack, packedInfinity]
  simp only [unpackExponent_packComponents, unpackMantissa_packComponents, if_true]
  rfl

theorem isFinite_pack_of_isInf {u : UnpackedFloat} (hnumber : u ≠ .notANumber)
    (h : (Float.Model.pack u).isInf = false) : (Float.Model.pack u).isFinite = true := by
  cases u with
  | infinity s => rw [isInf_packedInfinity s rfl] at h; cases h
  | notANumber => exact absurd rfl hnumber
  | zero s => exact isFinite_pack trivial
  | finite s m e hm =>
    by_cases he : e ≤ 971
    · exact isFinite_pack he
    · have hfull : 2 ^ 11 ≤ (e + (1023 : Nat) + (52 : Nat)).toNat + 1 := by omega
      rw [isInf_packedInfinity s (if_pos hfull)] at h
      cases h

theorem roundWithAccuracy_ne_notANumber (s : Sign) (m : Nat) (e : Int) (a : Accuracy) :
    roundWithAccuracy .binary64 s m e a ≠ .notANumber := by
  unfold roundWithAccuracy
  dsimp only
  split <;> exact nofun

/-- A product of finite numbers is finite unless it is infinite. -/
theorem isFinite_mul {x y : Float} (hx : x.isFinite = true) (hy : y.isFinite = true) (h : (x * y).isInf = false) :
    (x * y).isFinite = true := by
  refine isFinite_pack_of_isInf ?_ h
  have hsx : Small x.toModel.unpack := small_unpack hx
  have hsy : Small y.toModel.unpack := small_unpack hy
  revert hsx hsy
  cases x.toModel.unpack with
  | infinity _ => exact fun h => h.elim
  | notANumber => exact fun h => h.elim
  | zero _ =>
    cases y.toModel.unpack with
    | infinity _ => exact fun _ h => h.elim
    | notANumber => exact fun _ h => h.elim
    | zero _ => exact fun _ _ => nofun
    | finite _ _ _ _ => exact fun _ _ => nofun
  | finite _ _ _ _ =>
    cases y.toModel.unpack with
    | infinity _ => exact fun _ h => h.elim
    | notANumber => exact fun _ h => h.elim
    | zero _ => exact fun _ _ => nofun
    | finite _ _ _ _ => exact fun _ _ => roundWithAccuracy_ne_notANumber _ _ _ _

/-- A number with two or more digits before the point. -/
inductive AtLeastTwo : UnpackedFloat → Prop where
  | finite {s : Sign} {m : Nat} {e : Int} {hm : 0 < m} (h : 2 ≤ totalExponent m e) : AtLeastTwo (.finite s m e hm)

instance : DecidablePred AtLeastTwo
  | .finite _ m e _ => decidable_of_iff (2 ≤ totalExponent m e) ⟨.finite, fun | .finite h => h⟩
  | .zero _ | .infinity _ | .notANumber => .isFalse nofun

theorem log2_div_le {a b : Nat} (ha : 0 < a) (hb : 0 < b) : a / b = 0 ∨ (a / b).log2 + b.log2 ≤ a.log2 := by
  by_cases hq : a / b = 0
  · exact .inl hq
  · refine .inr ((Nat.le_log2 (Nat.ne_of_gt ha)).2 ?_)
    calc 2 ^ ((a / b).log2 + b.log2) = 2 ^ (a / b).log2 * 2 ^ b.log2 := Nat.pow_add ..
      _ ≤ a / b * b := Nat.mul_le_mul (Nat.log2_self_le hq) (Nat.log2_self_le (Nat.ne_of_gt hb))
      _ ≤ a := Nat.div_mul_le_self a b

theorem isFinite_of_atLeastTwo {x : Float} (h : AtLeastTwo x.toModel.unpack) : x.isFinite = true := by
  show x.toModel.unpack.isFinite = true
  generalize x.toModel.unpack = u at h ⊢
  cases h
  rfl

/-- A quotient is not larger than what was divided. -/
theorem isFinite_div {x y : Float} (hx : x.isFinite = true) (hy : AtLeastTwo y.toModel.unpack) :
    (x / y).isFinite = true := by
  have hsmall : Small x.toModel.unpack := small_unpack hx
  show (Float.Model.pack (UnpackedFloat.div .binary64 x.toModel.unpack y.toModel.unpack)).isFinite = true
  refine isFinite_pack ?_
  generalize y.toModel.unpack = v at hy ⊢
  obtain @⟨s₂, m₂, e₂, hm₂, htwo⟩ := hy
  cases hu : x.toModel.unpack with
  | infinity _ => rw [hu] at hsmall; exact hsmall
  | notANumber => rw [hu] at hsmall; exact hsmall
  | zero _ => trivial
  | finite s₁ m₁ e₁ hm₁ =>
    obtain ⟨hdigits, hplace⟩ := bounds_of_unpack hu
    have hlog : m₁.log2 ≤ 52 := log2_le hdigits
    rw [UnpackedFloat.div, divCore, targetExponent_eq]
    generalize htarget : min (e₁ - e₂) (max (totalExponent m₁ e₁ - totalExponent m₂ e₂ - 53) (-1074)) = t
    rw [totalExponent] at htwo
    rw [totalExponent, totalExponent] at htarget
    refine small_roundWithAccuracy (by omega) ?_ _ _
    rw [totalExponent]
    generalize hshift : (e₁ - e₂ - t).toNat = k
    have hshifted : (m₁ <<< k).log2 ≤ m₁.log2 + k := log2_shiftLeft_le Nat.lt_log2_self k
    rcases log2_div_le (Nat.shiftLeft_pos_iff.2 hm₁ : 0 < m₁ <<< k) hm₂ with hzero | hlog₂
    · rw [hzero, Nat.log2_zero]
      omega
    · omega

end Binary64
end Clearance

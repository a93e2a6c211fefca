import Mathlib
import Reduct.Number.Binary

/-!
# Rounding to the nearest number

The model of binary64 arithmetic computes an exact result to some extra bits and then rounds
it. This module says what that rounding does, in exact arithmetic on rationals: a result that
lies among the reals closest to a number of the format, ties to the even mantissa, is rounded
to that very number (`Binary.roundWithAccuracy_eq`).

The argument has three layers:

* a mantissa with a round bit and a sticky bit *locates* a rational between whole halves, and
  shifting it right by one keeps this (`Locates.shiftRight`);
* a located rational rounds as `RoundsTo` says (`Locates.roundedMantissa_eq`);
* the exponent that the shift goes to is that of the covering number, or one less when the
  rational lies just below a power of two (`Binary.Covers.narrow`).
-/

open Float.Model Float.Model.UnpackedFloat

namespace Reduct.Rounding

/-! ### Mantissas with two extra bits -/

/-- The whole halves in a mantissa with its round bit. -/
def halves (em : ExtendedMantissa) : Nat := 2 * em.mantissa + em.roundBit.toNat

/-- The mantissa stands for `x`: its halves are exact, or the sticky bit says that `x` lies
strictly between them and the next half. -/
def Locates (em : ExtendedMantissa) (x : ℚ) : Prop :=
  if em.stickyBit then (halves em : ℚ) < 2 * x ∧ 2 * x < halves em + 1 else 2 * x = halves em

/-- `n` is the natural number next to `x`, the even one of two that are equally near. -/
def RoundsTo (x : ℚ) (n : Nat) : Prop :=
  if n % 2 = 0 then (2 * n - 1 : ℚ) ≤ 2 * x ∧ 2 * x ≤ 2 * n + 1
  else (2 * n - 1 : ℚ) < 2 * x ∧ 2 * x < 2 * n + 1

variable {em : ExtendedMantissa} {acc : Accuracy} {x : ℚ} {m n : Nat} {e t : Int}

/-- Rounding moves a rational by half a unit at most. -/
theorem RoundsTo.bounds (h : RoundsTo x n) :
    (2 * n - 1 : ℚ) ≤ 2 * x ∧ 2 * x ≤ 2 * n + 1 := by
  unfold RoundsTo at h
  split at h <;> constructor <;> linarith

/-- The bit that is shifted out becomes the round bit, so the halves of the shifted mantissa
are the mantissa before. -/
theorem halves_shiftRightOne (em : ExtendedMantissa) :
    halves em.shiftRightOne = em.mantissa := by
  have hdiv := Nat.div_add_mod em.mantissa 2
  rcases Nat.mod_two_eq_zero_or_one em.mantissa with h | h <;>
    simp [halves, ExtendedMantissa.shiftRightOne, h] <;> omega

theorem Locates.shiftRightOne (h : Locates em x) : Locates em.shiftRightOne (x / 2) := by
  unfold Locates at *
  rw [halves_shiftRightOne]
  obtain ⟨n, round, sticky⟩ := em
  cases round <;> cases sticky <;>
    simp [halves, ExtendedMantissa.shiftRightOne] at h ⊢
  · linarith
  · constructor <;> linarith
  · constructor <;> linarith
  · constructor <;> linarith

theorem Locates.shiftRight (h : Locates em x) (s : Nat) : Locates (em >>> s) (x / 2 ^ s) := by
  change Locates (s.repeat ExtendedMantissa.shiftRightOne em) _
  induction s with
  | zero => simpa [Nat.repeat] using h
  | succ s ih =>
      rw [Nat.repeat, pow_succ, ← div_div]
      exact ih.shiftRightOne

/-- Where the halves of a mantissa lie when it locates a rational that rounds to `n`. -/
theorem Locates.halves_near (h : Locates em x) (hn : RoundsTo x n) :
    2 * n ≤ halves em + 1 ∧
      if em.stickyBit then halves em ≤ 2 * n
      else halves em ≤ 2 * n + 1 ∧ (n % 2 = 1 → halves em = 2 * n) := by
  obtain ⟨hlo, hhi⟩ := hn.bounds
  unfold Locates at h
  split at h
  next hsticky =>
    have h1 : (2 * n : ℚ) < halves em + 2 := by linarith
    have h2 : (halves em : ℚ) < 2 * n + 1 := by linarith
    norm_cast at h1 h2
    rw [if_pos hsticky]
    omega
  next hsticky =>
    have h1 : (2 * n : ℚ) ≤ halves em + 1 := by linarith
    have h2 : (halves em : ℚ) ≤ 2 * n + 1 := by linarith
    norm_cast at h1 h2
    rw [if_neg hsticky]
    refine ⟨h1, h2, fun hodd => ?_⟩
    -- A tie goes to the even number, so an odd one is strictly nearest.
    rw [RoundsTo, if_neg (by omega)] at hn
    have h3 : (2 * n : ℚ) < halves em + 1 := by linarith
    have h4 : (halves em : ℚ) < 2 * n + 1 := by linarith
    norm_cast at h3 h4
    omega

/-- The two extra bits are enough to round right. -/
theorem Locates.roundedMantissa_eq (h : Locates em x) (hn : RoundsTo x n) :
    em.roundedMantissa = n := by
  have hnear := h.halves_near hn
  obtain ⟨k, round, sticky⟩ := em
  cases round <;> cases sticky <;>
    simp [halves, ExtendedMantissa.roundedMantissa, ExtendedMantissa.accuracy,
      Accuracy.roundToNearestEven] at hnear ⊢ <;> omega

/-! ### Where extra bits come from -/

theorem locates_exact (m : Nat) :
    Locates (ExtendedMantissa.ofMantissaAndAccuracy m .exact) m := by
  simp [Locates, halves, ExtendedMantissa.ofMantissaAndAccuracy]

/-- A quotient is located by its whole part and by what the remainder says about a half. -/
theorem locates_fraction (a : Nat) {b : Nat} (hb : 0 < b) :
    Locates (ExtendedMantissa.ofMantissaAndAccuracy (a / b) (accuracyOfFraction (a % b) b))
      (a / b) := by
  have hb' : (0 : ℚ) < b := by exact_mod_cast hb
  have hx : 2 * (a / b : ℚ) = 2 * (a / b : Nat) + 2 * (a % b : Nat) / b := by
    field_simp
    exact_mod_cast (Nat.div_add_mod a b).symm
  have hlt : 2 * (a % b : Nat) / (b : ℚ) < 2 := by
    rw [div_lt_iff₀ hb']
    exact_mod_cast Nat.mul_lt_mul_of_pos_left (Nat.mod_lt a hb) (by decide)
  rw [accuracyOfFraction]
  split
  next h0 => simp [Locates, halves, ExtendedMantissa.ofMantissaAndAccuracy, hx, h0]
  next h0 =>
    have hpos : 0 < 2 * (a % b : Nat) / (b : ℚ) := by
      have : 0 < a % b := Nat.pos_of_ne_zero h0
      positivity
    rcases Nat.lt_trichotomy (2 * (a % b)) b with h | h | h
    · have hlow : 2 * (a % b : Nat) / (b : ℚ) < 1 := by
        rw [div_lt_iff₀ hb', one_mul]
        exact_mod_cast h
      rw [Nat.compare_eq_lt.mpr h]
      simp only [Locates, halves, ExtendedMantissa.ofMantissaAndAccuracy, hx]
      constructor <;> push_cast <;> simp <;> linarith
    · have hhalf : 2 * (a % b : Nat) / (b : ℚ) = 1 := by
        rw [div_eq_iff hb'.ne', one_mul]
        exact_mod_cast h
      rw [Nat.compare_eq_eq.mpr h]
      simp [Locates, halves, ExtendedMantissa.ofMantissaAndAccuracy, hx, hhalf]
    · have hhigh : 1 < 2 * (a % b : Nat) / (b : ℚ) := by
        rw [lt_div_iff₀ hb', one_mul]
        exact_mod_cast h
      rw [Nat.compare_eq_gt.mpr h]
      simp only [Locates, halves, ExtendedMantissa.ofMantissaAndAccuracy, hx]
      constructor <;> push_cast <;> simp <;> linarith

/-- The mantissa is the whole part of what it locates. -/
theorem Locates.floor (h : Locates (ExtendedMantissa.ofMantissaAndAccuracy m acc) x) :
    (m : ℚ) ≤ x ∧ x < m + 1 := by
  cases acc with
  | exact =>
      have hx : 2 * x = 2 * m := by
        simpa [Locates, halves, ExtendedMantissa.ofMantissaAndAccuracy] using h
      constructor <;> linarith
  | inexact o =>
      cases o <;> simp [Locates, halves, ExtendedMantissa.ofMantissaAndAccuracy] at h <;>
        constructor <;> linarith

/-! ### The exponent of the result -/

/-- The exponent that a magnitude is shifted to: its leading digit comes to place 52, unless
the exponents of the format end before. -/
theorem targetExponent_eq (m : Nat) (e : Int) :
    Format.binary64.targetExponent (totalExponent m e) = max (m.log2 + e - 52) (-1074) := by
  simp only [Format.targetExponent, totalExponent, Format.mantissaBits, Format.minExponent]
  norm_num
  omega

theorem Locates.lt_two_zpow (h : Locates (ExtendedMantissa.ofMantissaAndAccuracy m acc) x)
    (ht : m.log2 + e - 52 ≤ t) : x * 2 ^ e < 2 ^ (t + 53) := by
  have hm : ((m + 1 : Nat) : ℚ) ≤ 2 ^ (m.log2 + 1) := by exact_mod_cast Nat.lt_log2_self
  have hpos : (0 : ℚ) < 2 ^ e := by positivity
  calc x * 2 ^ e < (m + 1) * 2 ^ e := mul_lt_mul_of_pos_right h.floor.2 hpos
    _ ≤ 2 ^ (m.log2 + 1) * 2 ^ e := mul_le_mul_of_nonneg_right (by exact_mod_cast hm) hpos.le
    _ = (2 : ℚ) ^ ((m.log2 + 1 : Nat) + e : Int) := by
        rw [zpow_add₀ two_ne_zero, zpow_natCast]
    _ ≤ 2 ^ (t + 53) := zpow_le_zpow_right₀ one_le_two (by push_cast; omega)

theorem Locates.two_zpow_le (h : Locates (ExtendedMantissa.ofMantissaAndAccuracy m acc) x)
    (hm : m ≠ 0) (ht : t ≤ m.log2 + e - 52) : 2 ^ (t + 52) ≤ x * 2 ^ e := by
  have hlog : ((2 ^ m.log2 : Nat) : ℚ) ≤ m := by exact_mod_cast Nat.log2_self_le hm
  have hpos : (0 : ℚ) < 2 ^ e := by positivity
  calc (2 : ℚ) ^ (t + 52) ≤ 2 ^ ((m.log2 : Int) + e) :=
        zpow_le_zpow_right₀ one_le_two (by omega)
    _ = 2 ^ m.log2 * 2 ^ e := by rw [zpow_add₀ two_ne_zero, zpow_natCast]
    _ ≤ m * 2 ^ e := mul_le_mul_of_nonneg_right (by exact_mod_cast hlog) hpos.le
    _ ≤ x * 2 ^ e := mul_le_mul_of_nonneg_right h.floor.1 hpos.le

/-- A shift up to the exponent `t` locates the same number in units of `2 ^ t`. -/
theorem Locates.shiftToExponent (h : Locates (ExtendedMantissa.ofMantissaAndAccuracy m acc) x)
    (ht : e ≤ t) :
    Locates (shiftToExponent m e acc t).1 (x * 2 ^ e / 2 ^ t) ∧
      (UnpackedFloat.shiftToExponent m e acc t).2 = t := by
  obtain ⟨s, rfl⟩ := Int.le.dest ht
  have hs : (e + s - e).toNat = s := by omega
  simp only [UnpackedFloat.shiftToExponent, hs, and_true]
  have hx : x * 2 ^ e / 2 ^ (e + s : Int) = x / 2 ^ s := by
    rw [zpow_add₀ two_ne_zero, zpow_natCast]
    field_simp
  rw [hx]
  exact h.shiftRight s

end Reduct.Rounding

namespace Reduct.Binary

open Rounding

/-! ### Magnitudes of the format and what rounds to them -/

/-- A non-zero magnitude as the format holds it: the mantissa has its leading digit at place
52, unless the exponent is the least one. -/
structure Normalized (b : Binary) : Prop where
  pos : 0 < b.mantissa
  lt : b.mantissa < 2 ^ 53
  exponent_ge : -1074 ≤ b.exponent
  exponent_le : b.exponent ≤ 971
  lead : b.exponent = -1074 ∨ 2 ^ 52 ≤ b.mantissa

/-- Is the magnitude the one that `v` rounds to? The gap below a power of two is half the gap
above it, so there `v` may lie no more than a quarter of a unit below. -/
def Covers (b : Binary) (v : ℚ) : Prop :=
  RoundsTo (v / 2 ^ b.exponent) b.mantissa ∧
    (b.isNarrowBelow → (4 * b.mantissa - 1 : ℚ) ≤ 4 * (v / 2 ^ b.exponent))

variable {b : Binary} {v x : ℚ} {m : Nat} {e t : Int} {acc : Accuracy}

/-- A normalized magnitude stays where it is. -/
theorem Normalized.targetExponent_eq (hb : b.Normalized) :
    Format.binary64.targetExponent (totalExponent b.mantissa b.exponent) = b.exponent := by
  have hlog : b.mantissa.log2 < 53 := (Nat.log2_lt hb.pos.ne').mpr hb.lt
  have hge := hb.exponent_ge
  rw [Rounding.targetExponent_eq]
  rcases hb.lead with h | h
  · omega
  · have := (Nat.le_log2 hb.pos.ne').mpr h
    omega

theorem Normalized.shiftToTargetExponent_eq (hb : b.Normalized) :
    shiftToTargetExponent .binary64 b.mantissa b.exponent .exact =
      (⟨b.mantissa, false, false⟩, b.exponent) := by
  rw [shiftToTargetExponent, hb.targetExponent_eq, shiftToExponent]
  simp [HShiftRight.hShiftRight, Nat.repeat, ExtendedMantissa.ofMantissaAndAccuracy]

/-- A mantissa that rounding has carried to `2 ^ 53` is shifted once more. -/
theorem shiftToTargetExponent_carry (he : -1074 ≤ e) :
    shiftToTargetExponent .binary64 (2 ^ 53) e .exact = (⟨2 ^ 52, false, false⟩, e + 1) := by
  have ht : Format.binary64.targetExponent (totalExponent (2 ^ 53) e) = e + 1 := by
    rw [Rounding.targetExponent_eq, Nat.log2_two_pow]
    omega
  rw [shiftToTargetExponent, ht, shiftToExponent]
  simp [HShiftRight.hShiftRight, Nat.repeat, ExtendedMantissa.ofMantissaAndAccuracy,
    ExtendedMantissa.shiftRightOne]

/-- The greatest mantissa is odd, so what it covers ends before the next power of two. -/
theorem Covers.lt (hv : b.Covers v) (hb : b.Normalized) : v < 2 ^ (b.exponent + 53) := by
  have hpos : (0 : ℚ) < 2 ^ b.exponent := by positivity
  have hlt := hb.lt
  have hy : v / 2 ^ b.exponent < 2 ^ 53 := by
    have h := hv.1
    unfold RoundsTo at h
    split at h
    · have heven : ((b.mantissa + 2 : Nat) : ℚ) ≤ (2 ^ 53 : Nat) := by
        exact_mod_cast (by omega : b.mantissa + 2 ≤ 2 ^ 53)
      push_cast at heven
      linarith [h.2]
    · have hodd : ((b.mantissa + 1 : Nat) : ℚ) ≤ (2 ^ 53 : Nat) := by exact_mod_cast hlt
      push_cast at hodd
      linarith [h.2]
  rw [div_lt_iff₀ hpos] at hy
  rw [add_comm, zpow_add₀ two_ne_zero]
  exact_mod_cast hy

/-- A magnitude above the least exponent covers nothing below half its own power of two. -/
theorem Covers.two_zpow_le (hv : b.Covers v) (hb : b.Normalized) (he : -1074 < b.exponent) :
    (2 : ℚ) ^ (b.exponent + 51) ≤ v := by
  have hpos : (0 : ℚ) < 2 ^ b.exponent := by positivity
  have hy : (2 : ℚ) ^ 51 ≤ v / 2 ^ b.exponent := by
    have hm : ((2 ^ 52 : Nat) : ℚ) ≤ b.mantissa := by
      exact_mod_cast hb.lead.resolve_left (by omega)
    push_cast at hm
    linarith [hv.1.bounds.1]
  rw [le_div_iff₀ hpos] at hy
  rw [add_comm, zpow_add₀ two_ne_zero]
  exact_mod_cast hy

/-- Only the least normal mantissa covers anything below its own power of two, and of the gap
there only the last quarter of a unit. -/
theorem Covers.narrow (hv : b.Covers v) (hb : b.Normalized) (he : -1074 < b.exponent)
    (hlt : v / 2 ^ b.exponent < 2 ^ 52) :
    b.mantissa = 2 ^ 52 ∧ (2 ^ 54 - 1 : ℚ) ≤ 4 * (v / 2 ^ b.exponent) := by
  have hm : b.mantissa = 2 ^ 52 := by
    have hge := hb.lead.resolve_left (by omega)
    have hle : (2 * b.mantissa : ℚ) < 2 ^ 53 + 1 := by linarith [hv.1.bounds.1]
    have hle' : 2 * b.mantissa < 2 ^ 53 + 1 := by exact_mod_cast hle
    omega
  have hnarrow : b.isNarrowBelow := by
    simp [isNarrowBelow, hm, leastNormal]
    omega
  have hquarter := hv.2 hnarrow
  rw [hm] at hquarter
  norm_num at hquarter ⊢
  exact ⟨hm, by linarith⟩

/-! ### The rounded result -/

/-- **Rounding is right.** An exact result `x * 2 ^ e`, computed to enough places, rounds to
the magnitude that covers it. -/
theorem roundWithAccuracy_eq (hb : b.Normalized) (s : Sign)
    (hx : Locates (ExtendedMantissa.ofMantissaAndAccuracy m acc) x)
    (he : e ≤ Format.binary64.targetExponent (totalExponent m e)) (hv : b.Covers (x * 2 ^ e)) :
    roundWithAccuracy .binary64 s m e acc = .finite s b.mantissa b.exponent hb.pos := by
  generalize ht : Format.binary64.targetExponent (totalExponent m e) = t at he
  have hshift : shiftToTargetExponent .binary64 m e acc = shiftToExponent m e acc t := by
    rw [shiftToTargetExponent, ht]
  obtain ⟨hem, hexp⟩ := hx.shiftToExponent he
  rw [Rounding.targetExponent_eq] at ht
  have hge := hb.exponent_ge
  have hbelow : x * 2 ^ e < 2 ^ (t + 53) := hx.lt_two_zpow (by omega)
  have habove : t ≠ -1074 → (2 : ℚ) ^ (t + 52) ≤ x * 2 ^ e := fun h =>
    hx.two_zpow_le (by rintro rfl; simp at ht; omega) (by omega)
  rcases lt_trichotomy t b.exponent with h | rfl | h
  · -- The result lies just below a power of two: it is rounded up to it, with a carry.
    have hlow : (2 : ℚ) ^ (b.exponent + 51) < 2 ^ (t + 53) :=
      (hv.two_zpow_le hb (by omega)).trans_lt hbelow
    have hlow' := (zpow_lt_zpow_iff_right₀ one_lt_two).mp hlow
    obtain rfl : t = b.exponent - 1 := by omega
    have hy : x * 2 ^ e / 2 ^ b.exponent < 2 ^ 52 := by
      rw [div_lt_iff₀ (by positivity)]
      have hpow : (2 : ℚ) ^ (b.exponent - 1 + 53) = 2 ^ 52 * 2 ^ b.exponent := by
        rw [show b.exponent - 1 + 53 = 52 + b.exponent by omega, zpow_add₀ two_ne_zero]
        norm_cast
      exact hpow ▸ hbelow
    obtain ⟨hm, hquarter⟩ := hv.narrow hb (by omega) hy
    have hround : (shiftToExponent m e acc (b.exponent - 1)).1.roundedMantissa = 2 ^ 53 := by
      refine hem.roundedMantissa_eq ?_
      have hdouble : x * 2 ^ e / 2 ^ (b.exponent - 1) = 2 * (x * 2 ^ e / 2 ^ b.exponent) := by
        rw [zpow_sub_one₀ two_ne_zero]
        field_simp
      rw [hdouble, RoundsTo, if_pos (by norm_num)]
      constructor <;> push_cast <;> linarith
    have hcarry := shiftToTargetExponent_carry (show -1074 ≤ b.exponent - 1 by omega)
    simp only [roundWithAccuracy, hshift, hround, hexp, hcarry, hm]
    simp
  · have hround := hem.roundedMantissa_eq hv.1
    simp only [roundWithAccuracy, hshift, hround, hexp, hb.shiftToTargetExponent_eq, hb.pos.ne',
      dite_false]
  · -- The result would lie beyond what the magnitude covers.
    have hup := (zpow_lt_zpow_iff_right₀ one_lt_two).mp ((habove (by omega)).trans_lt (hv.lt hb))
    omega

end Reduct.Binary

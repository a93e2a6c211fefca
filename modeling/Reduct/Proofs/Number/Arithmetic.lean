import Reduct.Number.Numeral
import Reduct.Proofs.Number.Encoding

/-!
# Products, quotients and decimals

What the arithmetic of numbers does with exact results that a number covers: a product
(`mul_eq`) and a quotient (`div_eq`) of finite values come out as the covering number. A
decimal is such a product or quotient of its digits and a power of ten, hence reading one gives
the number that covers it (`Decimal.toFloat_eq`).
-/

open Float.Model Float.Model.UnpackedFloat

namespace Reduct.Binary

open Rounding Encoding

variable {b : Binary} {v : ℚ} {m m₁ m₂ : Nat} {e e₁ e₂ : Int}

/-- The magnitude as a rational. -/
def value (b : Binary) : ℚ := b.mantissa * 2 ^ b.exponent

/-- The value of a normalized magnitude, positive or negative. -/
def Normalized.signed (hb : b.Normalized) (s : Sign) : UnpackedFloat :=
  .finite s b.mantissa b.exponent hb.pos

/-- A magnitude covers its own value. -/
theorem covers_value (b : Binary) : b.Covers b.value := by
  have hv : b.value / 2 ^ b.exponent = b.mantissa := by
    rw [value]
    field_simp
  rw [Covers, hv]
  refine ⟨?_, fun _ => by linarith⟩
  unfold RoundsTo
  split <;> constructor <;> linarith

/-- Nothing covered is smaller than half the least magnitude. -/
theorem Covers.pos (hv : b.Covers v) (hb : b.Normalized) : (2 : ℚ) ^ (-1075 : Int) ≤ v := by
  have hpos : (0 : ℚ) < 2 ^ b.exponent := by positivity
  have hm : (1 : ℚ) ≤ b.mantissa := by exact_mod_cast hb.pos
  have hy : 1 / 2 ≤ v / 2 ^ b.exponent := by linarith [hv.1.bounds.1]
  rw [le_div_iff₀ hpos] at hy
  calc (2 : ℚ) ^ (-1075 : Int) = 1 / 2 * 2 ^ (-1074 : Int) := by
        rw [show (-1075 : Int) = -1074 - 1 by decide, zpow_sub_one₀ two_ne_zero]
        ring
    _ ≤ 1 / 2 * 2 ^ b.exponent :=
        mul_le_mul_of_nonneg_left (zpow_le_zpow_right₀ one_le_two hb.exponent_ge) (by norm_num)
    _ ≤ v := hy

/-! ### Products and quotients -/

/-- An exact product with enough digits comes out as the number that covers it. -/
theorem mul_eq (hb : b.Normalized) {s₁ s₂ : Sign} {h₁ : 0 < m₁} {h₂ : 0 < m₂}
    (hbits : 2 ^ 52 ≤ m₁ * m₂) (hv : b.Covers (m₁ * 2 ^ e₁ * (m₂ * 2 ^ e₂))) :
    mul format (.finite s₁ m₁ e₁ h₁) (.finite s₂ m₂ e₂ h₂) = hb.signed (s₁ * s₂) := by
  have hlog : 52 ≤ (m₁ * m₂).log2 := (Nat.le_log2 (by positivity)).mpr hbits
  refine roundWithAccuracy_eq hb _ (locates_exact _) ?_ ?_
  · rw [Rounding.targetExponent_eq]
    omega
  · convert hv using 1
    push_cast
    rw [zpow_add₀ two_ne_zero]
    ring

/-- The quotient is computed to enough places to be rounded. -/
theorem divCore_bits (h₁ : 0 < m₁) (h₂ : 0 < m₂) :
    let q := divCore format m₁ e₁ m₂ e₂
    q.2.1 ≤ Format.binary64.targetExponent (totalExponent q.1 q.2.1) := by
  intro q
  set t := min (e₁ - e₂) (format.targetExponent (totalExponent m₁ e₁ - totalExponent m₂ e₂))
    with ht
  have htarget : format.targetExponent (totalExponent m₁ e₁ - totalExponent m₂ e₂) =
      max (m₁.log2 + e₁ - (m₂.log2 + e₂) - 53) (-1074) := by
    simp only [Format.targetExponent, totalExponent, Format.mantissaBits, Format.minExponent]
    norm_num
    omega
  have hq : q = (m₁ <<< (e₁ - e₂ - t).toNat / m₂, t, q.2.2) := rfl
  rw [hq]
  dsimp only
  rw [Rounding.targetExponent_eq]
  by_cases hlow : t ≤ -1074
  · omega
  · -- The numerator has been shifted until the quotient has 53 digits.
    have hshift : m₂.log2 + 53 ≤ m₁.log2 + (e₁ - e₂ - t).toNat := by omega
    have hquot : 2 ^ 52 ≤ m₁ <<< (e₁ - e₂ - t).toNat / m₂ := by
      rw [Nat.le_div_iff_mul_le h₂, Nat.shiftLeft_eq]
      calc 2 ^ 52 * m₂ ≤ 2 ^ 52 * 2 ^ (m₂.log2 + 1) :=
            Nat.mul_le_mul_left _ Nat.lt_log2_self.le
        _ = 2 ^ (m₂.log2 + 53) := by rw [← Nat.pow_add]; congr 1; omega
        _ ≤ 2 ^ (m₁.log2 + (e₁ - e₂ - t).toNat) := Nat.pow_le_pow_right (by decide) hshift
        _ = 2 ^ m₁.log2 * 2 ^ (e₁ - e₂ - t).toNat := Nat.pow_add _ _ _
        _ ≤ m₁ * 2 ^ (e₁ - e₂ - t).toNat :=
            Nat.mul_le_mul_right _ (Nat.log2_self_le h₁.ne')
    have hlog := (Nat.le_log2 (by omega)).mpr hquot
    omega

/-- A quotient comes out as the number that covers it. -/
theorem div_eq (hb : b.Normalized) {s₁ s₂ : Sign} {h₁ : 0 < m₁} {h₂ : 0 < m₂}
    (hv : b.Covers (m₁ * 2 ^ e₁ / (m₂ * 2 ^ e₂))) :
    UnpackedFloat.div format (.finite s₁ m₁ e₁ h₁) (.finite s₂ m₂ e₂ h₂) = hb.signed (s₁ / s₂) := by
  refine roundWithAccuracy_eq hb _ (locates_fraction _ h₂) (divCore_bits h₁ h₂) ?_
  generalize htarget : min (e₁ - e₂)
    (format.targetExponent (totalExponent m₁ e₁ - totalExponent m₂ e₂)) = t
  obtain ⟨k, hk⟩ := Int.le.dest (show t ≤ e₁ - e₂ by omega)
  have hsh : (e₁ - e₂ - t).toNat = k := by omega
  convert hv using 1
  rw [hsh, show e₁ = e₂ + (t + k) by omega, zpow_add₀ two_ne_zero, zpow_add₀ two_ne_zero,
    zpow_natCast, Nat.shiftLeft_eq]
  push_cast
  field_simp

/-! ### Natural numbers and powers of ten -/

/-- A natural number with its leading digit moved to place 52. -/
def ofNat (n : Nat) : Binary := ⟨n <<< (52 - n.log2), n.log2 - 52⟩

theorem normalized_ofNat {n : Nat} (hn : 0 < n) (hlt : n < 2 ^ 53) : (ofNat n).Normalized := by
  have hlog : n.log2 < 53 := (Nat.log2_lt hn.ne').mpr hlt
  have hlow : 2 ^ 52 ≤ n <<< (52 - n.log2) := by
    rw [Nat.shiftLeft_eq]
    calc 2 ^ 52 = 2 ^ n.log2 * 2 ^ (52 - n.log2) := by rw [← Nat.pow_add]; congr 1; omega
      _ ≤ n * 2 ^ (52 - n.log2) := Nat.mul_le_mul_right _ (Nat.log2_self_le hn.ne')
  have hhigh : n <<< (52 - n.log2) < 2 ^ 53 := by
    rw [Nat.shiftLeft_eq]
    calc n * 2 ^ (52 - n.log2) < 2 ^ (n.log2 + 1) * 2 ^ (52 - n.log2) :=
          Nat.mul_lt_mul_of_pos_right Nat.lt_log2_self (by positivity)
      _ = 2 ^ 53 := by rw [← Nat.pow_add]; congr 1; omega
  constructor <;> simp only [ofNat] <;> omega

theorem value_ofNat {n : Nat} (hlt : n < 2 ^ 53) : (ofNat n).value = n := by
  have hlog : n.log2 ≤ 52 := by
    by_cases hn : n = 0
    · simp [hn]
    · have := (Nat.log2_lt hn).mpr hlt
      omega
  obtain ⟨k, hk⟩ := Nat.le.dest hlog
  rw [value, ofNat, show 52 - n.log2 = k by omega, show (n.log2 - 52 : Int) = -k by omega,
    zpow_neg, zpow_natCast, Nat.shiftLeft_eq]
  push_cast
  field_simp

/-- Small natural numbers are numbers exactly. -/
theorem unpacked_toFloat {n : Nat} (hn : 0 < n) (hlt : n < 2 ^ 53) :
    unpacked n.toUInt64.toFloat = (normalized_ofNat hn hlt).signed .positive := by
  have hcast : n.toUInt64.toNat = n := by
    rw [Nat.toUInt64_eq, UInt64.toNat_ofNat', Nat.mod_eq_of_lt (by omega)]
  have hround : UnpackedFloat.ofUInt64 format n.toUInt64 =
      (normalized_ofNat hn hlt).signed .positive := by
    have hb := normalized_ofNat hn hlt
    have htarget : format.targetExponent (totalExponent n 0) = n.log2 - 52 := by
      rw [Rounding.targetExponent_eq]
      omega
    have hlog : n.log2 < 53 := (Nat.log2_lt hn.ne').mpr hlt
    have hdec : decreaseExponent n 0 (n.log2 - 52) = ((ofNat n).mantissa, (ofNat n).exponent) := by
      simp only [decreaseExponent, ofNat, Prod.mk.injEq]
      constructor
      · congr 1
        omega
      · omega
    rw [UnpackedFloat.ofUInt64, UnpackedFloat.ofNat, UnpackedFloat.ofInt,
      UnpackedFloat.normalize, hcast]
    have hcmp : compare (n : Int) 0 = .gt := by
      simp only [compare, compareOfLessAndEq]
      rw [if_neg (by omega), if_neg (by omega)]
    rw [hcmp]
    dsimp only
    rw [Int.toNat_natCast, UnpackedFloat.round, htarget, hdec]
    exact roundWithAccuracy_eq hb _ (locates_exact _) hb.targetExponent_eq.ge (covers_value _)
  have hcanon : Canonical ((normalized_ofNat hn hlt).signed .positive) := normalized_ofNat hn hlt
  exact (congrArg (fun u => unpacked (ofUnpacked u)) hround).trans hcanon.unpacked_ofUnpacked

/-- Is the value the power of ten? -/
def isPowerOfTen (k : Nat) : UnpackedFloat → Bool
  | .finite .positive m e _ => m * 2 ^ e.toNat == 10 ^ k * 2 ^ (-e).toNat && 2 ^ 52 ≤ m
  | _ => false

theorem isPowerOfTen_table : ∀ k : Fin 23,
    isPowerOfTen k (unpacked (Float.exactlyRepresentablePowersOfTen[k])) := by
  decide

/-- The powers of ten up to the 22nd are numbers exactly. -/
theorem unpacked_powerOfTen {k : Nat} (hk : k < 23) :
    ∃ m e h, unpacked (Float.exactlyRepresentablePowersOfTen[k]) = .finite .positive m e h ∧
      2 ^ 52 ≤ m ∧ (m * 2 ^ e : ℚ) = 10 ^ k := by
  have hpow := isPowerOfTen_table ⟨k, hk⟩
  simp only [Fin.getElem_fin] at hpow
  unfold isPowerOfTen at hpow
  split at hpow
  next m e h hu =>
    simp only [Bool.and_eq_true, beq_iff_eq, decide_eq_true_eq] at hpow
    refine ⟨m, e, h, hu, hpow.2, ?_⟩
    have hq : (m * 2 ^ e.toNat : ℚ) = 10 ^ k * 2 ^ (-e).toNat := by exact_mod_cast hpow.1
    rcases le_total 0 e with he | he
    · rw [show (-e).toNat = 0 by omega, pow_zero, mul_one] at hq
      rw [← hq, ← zpow_natCast, Int.toNat_of_nonneg he]
    · rw [show e.toNat = 0 by omega, pow_zero, mul_one] at hq
      rw [hq, ← zpow_natCast 2, Int.toNat_of_nonneg (by omega), mul_assoc,
        ← zpow_add₀ two_ne_zero]
      simp
  next => simp at hpow

/-! ### Decimals -/

/-- The exact computation for decimals without a fraction. -/
theorem ofScientific_exact (hb : b.Normalized) {d : Nat} (hd : 0 < d) (hv : b.Covers d) :
    UnpackedFloat.ofScientific format d 0 = hb.signed .positive := by
  rw [UnpackedFloat.ofScientific, dif_neg hd.ne', if_neg (by decide),
    if_neg (by simp only; omega), if_pos (by decide)]
  refine mul_eq hb ?_ ?_
  · simp only [Nat.shiftLeft_eq, Format.mantissaBits, Int.toNat_zero, pow_zero]
    omega
  · convert hv using 1
    norm_num [Nat.shiftLeft_eq, Format.mantissaBits]
    ring

/-- The exact computation for decimals with a fraction. It gives up early only on decimals that
are far below the least number. -/
theorem ofScientific_exact_fraction (hb : b.Normalized) {d k : Nat} (hd : 0 < d) (hk : 0 < k)
    (hv : b.Covers (d / 10 ^ k)) :
    UnpackedFloat.ofScientific format d (-k) = hb.signed .positive := by
  have hguard : ¬ (-k : Int) < -((2 ^ 11 : Int) + d.log2) := by
    intro hlt
    have hlog : (d : ℚ) < 2 ^ (d.log2 + 1) := by exact_mod_cast Nat.lt_log2_self
    have hpow : (2 : ℚ) ^ (d.log2 + 1 + 1075) ≤ 10 ^ k :=
      calc (2 : ℚ) ^ (d.log2 + 1 + 1075) ≤ 2 ^ k :=
            pow_le_pow_right₀ one_le_two (by omega)
        _ ≤ 10 ^ k := pow_le_pow_left₀ (by norm_num) (by norm_num) k
    have hsmall : (d / 10 ^ k : ℚ) < 2 ^ (-1075 : Int) := by
      rw [div_lt_iff₀ (by positivity)]
      calc (d : ℚ) < 2 ^ (d.log2 + 1) := hlog
        _ = 2 ^ (-1075 : Int) * 2 ^ (d.log2 + 1 + 1075) := by
            rw [zpow_neg, pow_add _ _ 1075]
            field_simp
        _ ≤ 2 ^ (-1075 : Int) * 10 ^ k := mul_le_mul_of_nonneg_left hpow (by positivity)
    exact absurd (hv.pos hb) (not_le.mpr hsmall)
  rw [UnpackedFloat.ofScientific, dif_neg hd.ne', if_neg (by simp only; omega), if_neg hguard,
    if_neg (by omega)]
  refine div_eq hb ?_
  convert hv using 1
  simp

/-- A natural number comes out as the number that covers it. -/
theorem ofScientific_natural (hb : b.Normalized) {d : Nat} (hd : 0 < d) (hv : b.Covers d) :
    Float.ofScientific d false 0 = ofUnpacked (hb.signed .positive) := by
  rw [Float.ofScientific]
  split
  next h =>
    have hn := normalized_ofNat hd h.1
    obtain ⟨m, e, hm, hu, hbits, hval⟩ := unpacked_powerOfTen (k := 0) (by decide)
    have hcovers : b.Covers ((ofNat d).mantissa * 2 ^ (ofNat d).exponent * (m * 2 ^ e)) := by
      have hvalue := value_ofNat h.1
      rw [value] at hvalue
      rw [hvalue, hval]
      simpa using hv
    have hmul : mul format (hn.signed .positive) (.finite .positive m e hm) =
        hb.signed .positive :=
      mul_eq hb (hbits.trans (Nat.le_mul_of_pos_left _ hn.pos)) hcovers
    exact congrArg ofUnpacked
      ((congrArg₂ (mul format) (unpacked_toFloat hd h.1) hu).trans hmul)
  next h => exact congrArg ofUnpacked (ofScientific_exact hb hd hv)

/-- A natural number divided by a power of ten comes out as the number that covers it. -/
theorem ofScientific_fraction (hb : b.Normalized) {d k : Nat} (hd : 0 < d) (hk : 0 < k)
    (hv : b.Covers (d / 10 ^ k)) :
    Float.ofScientific d true k = ofUnpacked (hb.signed .positive) := by
  rw [Float.ofScientific]
  split
  next h =>
    have hn := normalized_ofNat hd h.1
    obtain ⟨m, e, hm, hu, hbits, hval⟩ := unpacked_powerOfTen (k := k) (by omega)
    have hcovers : b.Covers ((ofNat d).mantissa * 2 ^ (ofNat d).exponent / (m * 2 ^ e)) := by
      have hvalue := value_ofNat h.1
      rw [value] at hvalue
      rwa [hvalue, hval]
    have hdiv : UnpackedFloat.div format (hn.signed .positive) (.finite .positive m e hm) =
        hb.signed .positive :=
      div_eq hb hcovers
    exact congrArg ofUnpacked
      ((congrArg₂ (UnpackedFloat.div format) (unpacked_toFloat hd h.1) hu).trans hdiv)
  next h =>
    have hneg : Int.negOfNat k = -k := by
      rw [Int.negOfNat_eq]
      rfl
    rw [if_pos rfl, hneg]
    exact congrArg ofUnpacked (ofScientific_exact_fraction hb hd hk hv)

end Reduct.Binary

namespace Reduct.Decimal

open Encoding

/-- The decimal as a rational. -/
def value (d : Decimal) : ℚ := d.digits * 10 ^ d.exponent

/-- A decimal is below the power of ten that has one digit more. -/
theorem value_lt (d : Decimal) :
    d.value < 10 ^ (d.exponent + (Nat.toDigits 10 d.digits).length) := by
  have hdigits : d.digits < 10 ^ (Nat.toDigits 10 d.digits).length :=
    (Nat.length_toDigits_le_iff (by decide) Nat.length_toDigits_pos).mp le_rfl
  have hpos : (0 : ℚ) < 10 ^ d.exponent := by positivity
  rw [value, add_comm, zpow_add₀ (by norm_num), zpow_natCast]
  exact mul_lt_mul_of_pos_right (by exact_mod_cast hdigits) hpos

/-- **Reading is rounding.** A decimal without zeros to add before its point is read as the
number that covers it. -/
theorem toFloat_eq {b : Binary} (hb : b.Normalized) {d : Decimal} (he : d.exponent ≤ 0)
    (hv : b.Covers d.value) : d.toFloat = ofUnpacked (hb.signed .positive) := by
  have hlow := hv.pos hb
  have hd : d.digits ≠ 0 := by
    intro h0
    rw [value, h0, Nat.cast_zero, zero_mul] at hlow
    exact absurd hlow (not_le.mpr (by positivity))
  have hguard : ¬ d.exponent + (Nat.toDigits 10 d.digits).length < -330 := by
    intro hlt
    have hsmall : (10 : ℚ) ^ (d.exponent + (Nat.toDigits 10 d.digits).length) ≤
        10 ^ (-331 : Int) := zpow_le_zpow_right₀ (by norm_num) (by omega)
    have htiny : (10 : ℚ) ^ (-331 : Int) < 2 ^ (-1075 : Int) := by
      have hpow : (2 : ℚ) ^ 1075 < 10 ^ 331 :=
        calc (2 : ℚ) ^ 1075 = (2 ^ 13) ^ 82 * 2 ^ 9 := by rw [← pow_mul, ← pow_add]
          _ < (10 ^ 4) ^ 82 * 10 ^ 3 := by gcongr <;> norm_num
          _ = 10 ^ 331 := by rw [← pow_mul, ← pow_add]
      rw [zpow_neg, zpow_neg]
      exact (inv_lt_inv₀ (by positivity) (by positivity)).mpr (by exact_mod_cast hpow)
    linarith [d.value_lt]
  rw [toFloat, if_neg hd, if_neg (by omega), if_neg hguard]
  rcases he.lt_or_eq with hneg | hzero
  · obtain ⟨k, hk⟩ := Int.exists_eq_neg_ofNat he
    have habs : d.exponent.natAbs = k := by omega
    rw [decide_eq_true hneg, habs]
    refine Binary.ofScientific_fraction hb (Nat.pos_of_ne_zero hd) (by omega) ?_
    convert hv using 1
    rw [value, hk, zpow_neg, zpow_natCast, div_eq_mul_inv]
  · rw [hzero]
    refine Binary.ofScientific_natural hb (Nat.pos_of_ne_zero hd) ?_
    convert hv using 1
    rw [value, hzero, zpow_zero, mul_one]

end Reduct.Decimal

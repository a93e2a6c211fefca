import Reduct.Proofs.Number.Rounding

/-!
# The encoding of numbers

A number is 64 bits: a sign, eleven bits of exponent and 52 of mantissa. This module ties the
two readings of these bits to each other. The model of binary64 arithmetic unpacks them to a
sum type, on which it computes, and packs the result; the exact arithmetic of this library
reads a magnitude off them (`Binary.ofFloat`).

`Decodes` says once what each pattern of bits stands for. From it follow that unpacking gives
canonical values (`canonical_unpacked`), that it undoes packing of these
(`Canonical.unpacked_ofUnpacked`), and that both readings agree (`Binary.ofFloat_eq`,
`isNegative_iff`).
-/

open Float.Model Float.Model.UnpackedFloat

namespace Reduct.Encoding

/-- The format of numbers. -/
abbrev format : Format := .binary64

/-! ### Fields -/

/-- The biased exponent in an encoding. -/
def exponentField (v : BitVec format.numBits) : Nat := v.toNat / 2 ^ 52 % 2 ^ 11

/-- The mantissa in an encoding, without its leading digit. -/
def mantissaField (v : BitVec format.numBits) : Nat := v.toNat % 2 ^ 52

/-- The sign in an encoding. -/
def signField (v : BitVec format.numBits) : Sign := .ofBitVec (unpackSign v)

theorem exponentField_lt (v : BitVec format.numBits) : exponentField v < 2 ^ 11 :=
  Nat.mod_lt _ (by decide)

theorem mantissaField_lt (v : BitVec format.numBits) : mantissaField v < 2 ^ 52 :=
  Nat.mod_lt _ (by decide)

theorem unpackExponent_toNat (v : BitVec format.numBits) :
    (unpackExponent v).toNat = exponentField v := by
  simp [unpackExponent, exponentField, Nat.shiftRight_eq_div_pow]

theorem unpackMantissa_toNat (v : BitVec format.numBits) :
    (unpackMantissa v).toNat = mantissaField v := by
  simp [unpackMantissa, mantissaField]

theorem unpackSign_toNat (v : BitVec format.numBits) :
    (unpackSign v).toNat = v.toNat / 2 ^ 63 := by
  have hlt : v.toNat < 2 ^ 64 := v.isLt
  simp [unpackSign, Nat.shiftRight_eq_div_pow]
  omega

theorem packComponents_toNat (s : Sign) (e : BitVec 11) (m : BitVec 52) :
    (packComponents format s e m).toNat =
      s.toBitVec.toNat * 2 ^ 63 + e.toNat * 2 ^ 52 + m.toNat := by
  rw [packComponents, BitVec.toNat_append, ← Nat.shiftLeft_add_eq_or_of_lt m.isLt,
    BitVec.toNat_append, ← Nat.shiftLeft_add_eq_or_of_lt e.isLt]
  simp only [Nat.shiftLeft_eq]
  omega

/-- The fields are the components that were put in. -/
theorem fields_packComponents (s : Sign) {e m : Nat} (he : e < 2 ^ 11) (hm : m < 2 ^ 52) :
    let v := packComponents format s (BitVec.ofNat 11 e) (BitVec.ofNat 52 m)
    signField v = s ∧ exponentField v = e ∧ mantissaField v = m := by
  intro v
  have hv : v.toNat = s.toBitVec.toNat * 2 ^ 63 + e * 2 ^ 52 + m := by
    rw [packComponents_toNat, BitVec.toNat_ofNat, BitVec.toNat_ofNat, Nat.mod_eq_of_lt he,
      Nat.mod_eq_of_lt hm]
  have hbit : unpackSign v = s.toBitVec := by
    apply BitVec.eq_of_toNat_eq
    rw [unpackSign_toNat, hv]
    omega
  refine ⟨?_, ?_, ?_⟩
  · rw [signField, hbit]
    cases s <;> rfl
  · rw [exponentField, hv]
    omega
  · rw [mantissaField, hv]
    omega

/-! ### What the fields stand for -/

/-- The value that an encoding stands for. -/
inductive Decodes (v : BitVec format.numBits) : UnpackedFloat → Prop
  | infinity (he : exponentField v = 2047) (hm : mantissaField v = 0) :
      Decodes v (.infinity (signField v))
  | notANumber (he : exponentField v = 2047) (hm : mantissaField v ≠ 0) :
      Decodes v .notANumber
  | zero (he : exponentField v = 0) (hm : mantissaField v = 0) :
      Decodes v (.zero (signField v))
  | subnormal (he : exponentField v = 0) (hm : 0 < mantissaField v) :
      Decodes v (.finite (signField v) (mantissaField v) (-1074) hm)
  | normal (he : 0 < exponentField v) (he' : exponentField v < 2047) :
      Decodes v (.finite (signField v) (2 ^ 52 + mantissaField v) (exponentField v - 1075)
        (by omega))

theorem decodes_unpack (v : BitVec format.numBits) :
    Decodes v (UnpackedFloat.unpack format v) := by
  have hexp (k : Nat) (hk : k < 2 ^ 11) :
      unpackExponent v = BitVec.ofNat 11 k ↔ exponentField v = k := by
    rw [← BitVec.toNat_inj, unpackExponent_toNat, BitVec.toNat_ofNat, Nat.mod_eq_of_lt hk]
  have hmant : unpackMantissa v = 0#52 ↔ mantissaField v = 0 := by
    rw [← BitVec.toNat_inj, unpackMantissa_toNat]
    rfl
  have hlead : (1#1 ++ unpackMantissa v).toNat = 2 ^ 52 + mantissaField v := by
    rw [BitVec.toNat_append, ← Nat.shiftLeft_add_eq_or_of_lt (unpackMantissa v).isLt,
      unpackMantissa_toNat]
    simp [Nat.shiftLeft_eq]
  have hlt := exponentField_lt v
  simp only [UnpackedFloat.unpack]
  split
  next h =>
    have he := (hexp 2047 (by decide)).mp h
    split
    next hm => exact .infinity he (hmant.mp hm)
    next hm => exact .notANumber he (mt hmant.mpr hm)
  next h =>
    have he : exponentField v ≠ 2047 := mt (hexp 2047 (by decide)).mpr h
    split
    next h0 =>
      have he0 := (hexp 0 (by decide)).mp h0
      split
      next hm => exact .zero he0 (hmant.mp hm)
      next hm =>
        convert Decodes.subnormal he0 (Nat.pos_of_ne_zero (mt hmant.mpr hm)) using 1
        simp [h0, unpackMantissa_toNat, Format.exponentBias, signField]
    next h0 =>
      have he0 : exponentField v ≠ 0 := mt (hexp 0 (by decide)).mpr h0
      convert Decodes.normal (v := v) (by omega) (by omega) using 1
      simp [hlead, unpackExponent_toNat, Format.exponentBias, signField]

/-! ### Canonical values -/

/-- A value as unpacking gives it. -/
def Canonical : UnpackedFloat → Prop
  | .finite _ m e _ => (⟨m, e⟩ : Binary).Normalized
  | _ => True

theorem Decodes.canonical {v : BitVec format.numBits} {u : UnpackedFloat} (h : Decodes v u) :
    Canonical u := by
  have hm := mantissaField_lt v
  cases h with
  | infinity | notANumber | zero => trivial
  | subnormal he hm0 => constructor <;> dsimp only <;> omega
  | normal he he' => constructor <;> dsimp only <;> omega

/-- An encoding stands for one value. -/
theorem Decodes.unique {v : BitVec format.numBits} {u u' : UnpackedFloat} (h : Decodes v u)
    (h' : Decodes v u') : u = u' := by
  cases h <;> cases h' <;> first | rfl | omega

/-- What packing a canonical value gives stands for that value. -/
theorem Canonical.decodes_pack {u : UnpackedFloat} (hu : Canonical u) :
    Decodes (UnpackedFloat.pack format u) u := by
  cases u with
  | infinity s =>
      obtain ⟨hs, he, hm⟩ := fields_packComponents s (e := 2047) (m := 0) (by decide) (by decide)
      change Decodes (packComponents format s (BitVec.ofNat 11 2047) (BitVec.ofNat 52 0)) _
      convert Decodes.infinity he hm
      exact hs.symm
  | notANumber => exact .notANumber (by decide) (by decide)
  | zero s =>
      obtain ⟨hs, he, hm⟩ := fields_packComponents s (e := 0) (m := 0) (by decide) (by decide)
      change Decodes (packComponents format s (BitVec.ofNat 11 0) (BitVec.ofNat 52 0)) _
      convert Decodes.zero he hm
      exact hs.symm
  | finite s m e hpos =>
      have hlt : m < 2 ^ 53 := hu.lt
      have hge : -1074 ≤ e := hu.exponent_ge
      have hle : e ≤ 971 := hu.exponent_le
      have hlead : e = -1074 ∨ 2 ^ 52 ≤ m := hu.lead
      generalize hexp : (e + format.exponentBias + format.mantissaBitsWithoutImplicit).toNat = k
      have hk : (k : Int) = e + 1075 := by
        simp only [Format.exponentBias] at hexp
        omega
      by_cases hm : m < 2 ^ 52
      · obtain ⟨hs, he, hm'⟩ := fields_packComponents s (e := 0) (by decide) hm
        have hlog : m.log2 + 1 ≠ format.mantissaBits := by
          have := (Nat.log2_lt hpos.ne').mpr hm
          simp only [Format.mantissaBits]
          omega
        rw [UnpackedFloat.pack, hexp, if_neg (by simp only; omega), if_neg hlog]
        convert Decodes.subnormal he (by omega) using 2
        · exact hs.symm
        · exact hm'.symm
        · omega
      · obtain ⟨hs, he, hm'⟩ := fields_packComponents s (e := k) (m := m - 2 ^ 52) (by omega)
          (by omega)
        have hlog : m.log2 + 1 = format.mantissaBits := by
          rw [(Nat.log2_eq_iff hpos.ne').mpr ⟨Nat.not_lt.mp hm, hlt⟩]
          rfl
        have hdrop : BitVec.ofNat 52 m = BitVec.ofNat 52 (m - 2 ^ 52) := by
          apply BitVec.eq_of_toNat_eq
          simp only [BitVec.toNat_ofNat]
          omega
        rw [UnpackedFloat.pack, hexp, if_neg (by simp only; omega), if_pos hlog, hdrop]
        convert Decodes.normal (by rw [he]; omega) (by rw [he]; omega) using 2
        · exact hs.symm
        · rw [hm']
          omega
        · rw [he]
          omega

/-! ### Numbers and their values -/

/-- The value of a number, on which the model computes. -/
def unpacked (x : Float) : UnpackedFloat := x.toModel.unpack

/-- The number with a value. -/
def ofUnpacked (u : UnpackedFloat) : Float := .ofModel (.pack u)

theorem decodes_unpacked (x : Float) : Decodes x.toBits.toBitVec (unpacked x) :=
  decodes_unpack _

theorem canonical_unpacked (x : Float) : Canonical (unpacked x) :=
  (decodes_unpacked x).canonical

@[simp] theorem ofUnpacked_unpacked (x : Float) : ofUnpacked (unpacked x) = x := by
  obtain ⟨bits, hvalid⟩ := x
  simp only [ofUnpacked, unpacked, Float.Model.pack, Float.Model.unpack,
    pack_unpack_of_valid hvalid]

theorem Canonical.unpacked_ofUnpacked {u : UnpackedFloat} (hu : Canonical u) :
    unpacked (ofUnpacked u) = u :=
  (decodes_unpack _).unique hu.decodes_pack

theorem eq_ofUnpacked {x : Float} {u : UnpackedFloat} (h : unpacked x = u) : x = ofUnpacked u := by
  rw [← h, ofUnpacked_unpacked]

end Reduct.Encoding

namespace Reduct

open Encoding

/-! ### The two readings agree -/

variable {x : Float} {s : Sign} {m : Nat} {e : Int} {hm : 0 < m}

theorem Binary.ofFloat_fields (x : Float) :
    Binary.ofFloat x =
      let v := x.toBits.toBitVec
      if exponentField v = 0 then ⟨mantissaField v, -1074⟩
      else ⟨2 ^ 52 + mantissaField v, exponentField v - 1075⟩ := by
  have he : ((x.toBits >>> 52) &&& 0x7FF).toNat = exponentField x.toBits.toBitVec := by
    simp [exponentField, Nat.shiftRight_eq_div_pow]
    exact Nat.and_two_pow_sub_one_eq_mod _ 11
  have hm : (x.toBits &&& 0xFFFFFFFFFFFFF).toNat = mantissaField x.toBits.toBitVec := by
    simp [mantissaField]
    exact Nat.and_two_pow_sub_one_eq_mod _ 52
  simp only [Binary.ofFloat, he, hm, Binary.leastNormal]
  rfl

/-- The magnitude read off the bits is the one that the model computes with. -/
theorem Binary.ofFloat_eq (h : unpacked x = .finite s m e hm) :
    Binary.ofFloat x = ⟨m, e⟩ := by
  have hd := decodes_unpacked x
  rw [h] at hd
  rw [Binary.ofFloat_fields]
  cases hd with
  | subnormal he => simp [he]
  | normal he => simp [he.ne']

/-- The sign of a value that has one. -/
def signOf? : UnpackedFloat → Option Sign
  | .infinity s | .zero s | .finite s _ _ _ => some s
  | .notANumber => none

/-- The sign read off the bits is that of the value. -/
theorem isNegative_iff (h : signOf? (unpacked x) = some s) : isNegative x ↔ s = .negative := by
  have hsign : signField x.toBits.toBitVec = s := by
    have hd := decodes_unpacked x
    cases hu : unpacked x with
    | notANumber => simp [hu, signOf?] at h
    | infinity s' | zero s' | finite s' m e hm =>
        obtain rfl : s' = s := by simpa [hu, signOf?] using h
        rw [hu] at hd
        cases hd <;> rfl
  have hlt : x.toBits.toNat < 2 ^ 64 := x.toBits.toBitVec.isLt
  have hneg : signField x.toBits.toBitVec = .negative ↔ x.toBits.toNat / 2 ^ 63 ≠ 0 := by
    rw [← UInt64.toNat_toBitVec, ← unpackSign_toNat, signField, Sign.ofBitVec]
    split
    next hz => simp [hz]
    next hz => simpa [← BitVec.toNat_inj] using hz
  rw [← hsign, hneg, isNegative, beq_iff_eq, ← UInt64.toNat_inj, UInt64.toNat_shiftRight]
  simp [Nat.shiftRight_eq_div_pow]
  omega

end Reduct

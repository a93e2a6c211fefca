import Reduct.Proofs.Number.Arithmetic

/-!
# Numerals read back

The text of a number is read back as the very same number, bit by bit
(`Numeral.read?_text`): the shortest decimal lies in the interval that the number covers, its
positional form has the same value, and reading rounds that value to the number.

It follows that two numbers with the same text are the same (`Numeral.chars_injective`). What
the text of a finite number looks like is said by `Numeral.chars_finite`.
-/

open Float.Model Float.Model.UnpackedFloat

namespace Reduct.Binary

open Rounding

variable {b : Binary} {d : Decimal} {grid : Int} {c : Nat}

/-! ### The shortest decimal is covered -/

theorem scale_fst_pos (b : Binary) (grid : Int) : 0 < (b.scale grid).1 := by
  simp [scale, Nat.shiftLeft_eq]

/-- The two numbers of the scale are in the ratio of the two units. -/
theorem scale_ratio (b : Binary) (grid : Int) :
    ((b.scale grid).2 : ℚ) / (b.scale grid).1 = 10 ^ grid / 2 ^ b.exponent := by
  have hsplit (a : ℚ) (ha : a ≠ 0) (z : Int) : a ^ z = a ^ z.toNat / a ^ (-z).toNat := by
    rcases le_total 0 z with h | h
    · rw [show (-z).toNat = 0 by omega, pow_zero, div_one, ← zpow_natCast, Int.toNat_of_nonneg h]
    · rw [show z.toNat = 0 by omega, pow_zero, ← zpow_natCast, Int.toNat_of_nonneg (by omega),
        zpow_neg, one_div, inv_inv]
  rw [hsplit 10 (by norm_num) grid, hsplit 2 two_ne_zero b.exponent]
  simp only [scale, Nat.shiftLeft_eq, Nat.pow_eq]
  push_cast
  field_simp

/-- Comparing with a candidate in whole numbers is comparing with its share of the unit. -/
theorem scaled_iff (b : Binary) (grid : Int) (c k : Nat) :
    (k * (b.scale grid).1 ≤ 4 * c * (b.scale grid).2 ↔
        (k : ℚ) ≤ 4 * (c * 10 ^ grid / 2 ^ b.exponent)) ∧
      (4 * c * (b.scale grid).2 ≤ k * (b.scale grid).1 ↔
        4 * (c * 10 ^ grid / 2 ^ b.exponent) ≤ (k : ℚ)) := by
  have hunit : (0 : ℚ) < (b.scale grid).1 := by exact_mod_cast b.scale_fst_pos grid
  have hshare : 4 * (c * 10 ^ grid / 2 ^ b.exponent) =
      (4 * c * (b.scale grid).2 : ℚ) / (b.scale grid).1 := by
    rw [mul_div_assoc, mul_div_assoc, scale_ratio]
    ring
  rw [hshare, le_div_iff₀ hunit, div_le_iff₀ hunit]
  constructor <;> norm_cast

/-- A candidate that reads back lies among the numbers that the magnitude covers. -/
theorem covers_of_readsBack (hb : 0 < b.mantissa) (h : b.readsBack grid c) :
    b.Covers (c * 10 ^ grid) := by
  have hiff (k : Nat) := b.scaled_iff grid c k
  generalize hx : (c * 10 ^ grid / 2 ^ b.exponent : ℚ) = x at hiff
  simp only [readsBack] at h
  generalize hlow : (if b.isNarrowBelow then 4 * b.mantissa - 1 else 4 * b.mantissa - 2) = low at h
  have hge : (4 * b.mantissa - 2 : ℚ) ≤ low := by
    have : 4 * b.mantissa ≤ low + 2 := by split at hlow <;> omega
    have : ((4 * b.mantissa : Nat) : ℚ) ≤ (low + 2 : Nat) := by exact_mod_cast this
    push_cast at this
    linarith
  have hnarrow : b.isNarrowBelow → (4 * b.mantissa - 1 : ℚ) ≤ low := fun hn => by
    have : 4 * b.mantissa ≤ low + 1 := by rw [if_pos hn] at hlow; omega
    have : ((4 * b.mantissa : Nat) : ℚ) ≤ (low + 1 : Nat) := by exact_mod_cast this
    push_cast at this
    linarith
  have hhigh : ((4 * b.mantissa + 2 : Nat) : ℚ) = 4 * b.mantissa + 2 := by push_cast; ring
  rw [Covers, RoundsTo, hx]
  split at h
  next heven =>
    simp only [Bool.and_eq_true, decide_eq_true_eq] at h
    have h1 := (hiff low).1.mp h.1
    have h2 := (hiff _).2.mp h.2
    rw [if_pos heven]
    exact ⟨⟨by linarith, by linarith⟩, fun hn => by linarith [hnarrow hn]⟩
  next hodd =>
    simp only [Bool.and_eq_true, decide_eq_true_eq, ← Nat.not_le] at h
    have h1 := not_le.mp (mt (hiff low).2.mpr h.1)
    have h2 := not_le.mp (mt (hiff _).1.mpr h.2)
    rw [if_neg hodd]
    exact ⟨⟨by linarith, by linarith⟩, fun hn => by linarith [hnarrow hn]⟩

/-- The chosen neighbour on a grid is covered. -/
theorem covers_of_nearest? (hb : 0 < b.mantissa) (h : b.nearest? grid = some d) :
    b.Covers d.value := by
  simp only [nearest?] at h
  split at h
  next hup =>
    obtain rfl := Option.some.inj h
    simp only [Bool.and_eq_true] at hup
    exact covers_of_readsBack hb hup.1
  next =>
    split at h
    next hlow =>
      obtain rfl := Option.some.inj h
      exact covers_of_readsBack hb hlow
    next => exact absurd h (by simp)

theorem value_strip (places : Nat) (d : Decimal) : (d.strip places).value = d.value := by
  induction places generalizing d with
  | zero => rfl
  | succ places ih =>
      rw [Decimal.strip]
      split
      next h =>
        have hten : (d.digits : ℚ) = (d.digits / 10 : Nat) * 10 := by
          exact_mod_cast (Nat.div_mul_cancel (Nat.dvd_of_mod_eq_zero h)).symm
        rw [ih, Decimal.value, Decimal.value, hten, zpow_add_one₀ (by norm_num)]
        ring
      next => rfl

theorem value_toDecimal (b : Binary) : b.toDecimal.value = b.value := by
  rw [toDecimal]
  split
  next h =>
    obtain ⟨k, hk⟩ := Int.eq_ofNat_of_zero_le h
    simp [Decimal.value, value, hk, Nat.shiftLeft_eq]
  next h =>
    obtain ⟨k, hk⟩ := Int.exists_eq_neg_ofNat (Int.le_of_lt (Int.not_le.mp h))
    have hpow : (10 : ℚ) ^ k = 5 ^ k * 2 ^ k := by
      rw [← mul_pow]
      norm_num
    simp [Decimal.value, value, hk, hpow]
    field_simp

/-- **The shortest decimal reads back.** -/
theorem covers_shortest (hb : 0 < b.mantissa) : b.Covers b.shortest.value := by
  simp only [shortest]
  split
  next d h =>
    obtain ⟨n, -, hn⟩ := List.exists_of_findSome?_eq_some h
    rw [value_strip]
    exact covers_of_nearest? hb hn
  next =>
    rw [value_toDecimal]
    exact covers_value b

end Reduct.Binary

namespace Reduct.Text

/-! ### Runs of characters -/

variable {p : Char → Bool} {run : List Char} (rest : List Char)

/-- A run of a class of characters ends where the class does. -/
theorem takeWhile_run (hrun : ∀ c ∈ run, p c) (hrest : ∀ c ∈ rest.head?, p c = false) :
    (run ++ rest).takeWhile p = run := by
  rw [List.takeWhile_append_of_pos hrun]
  cases rest with
  | nil => simp
  | cons c rest => simp [hrest c rfl]

theorem dropWhile_run (hrun : ∀ c ∈ run, p c) (hrest : ∀ c ∈ rest.head?, p c = false) :
    (run ++ rest).dropWhile p = rest := by
  rw [List.dropWhile_append_of_pos hrun]
  cases rest with
  | nil => rfl
  | cons c rest => simp [hrest c rfl]

end Reduct.Text

namespace Reduct.Numeral

open Encoding Text

/-! ### Digits in positional form -/

/-- Digits, or digits with a point between them: the form of a number token. -/
inductive Plain : List Char → Prop
  | whole {ds : List Char} (hne : ds ≠ []) (hds : ∀ d ∈ ds, d.isDigit) : Plain ds
  | pointed {ds fs : List Char} (hne : ds ≠ []) (hds : ∀ d ∈ ds, d.isDigit) (hfne : fs ≠ [])
      (hfs : ∀ d ∈ fs, d.isDigit) : Plain (ds ++ '.' :: fs)

theorem Plain.exists_cons {cs : List Char} (h : Plain cs) :
    ∃ c rest, cs = c :: rest ∧ c.isDigit := by
  cases h with
  | whole hne hds | pointed hne hds =>
      obtain ⟨c, ds, rfl⟩ := List.exists_cons_of_ne_nil hne
      exact ⟨c, _, rfl, hds c (by simp)⟩

theorem digitsValue_eq (ds : List Char) : digitsValue ds = Nat.ofDigitChars 10 ds 0 :=
  Nat.ofDigitChars_eq_foldl.symm

/-- The value of plain digits is that of all of them, shifted by those after the point. -/
theorem decimal?_whole {ds : List Char} (hne : ds ≠ []) (hds : ∀ d ∈ ds, d.isDigit) :
    decimal? ds = some ⟨digitsValue ds, 0⟩ := by
  have htake := takeWhile_run [] hds (by simp)
  have hdrop := dropWhile_run [] hds (by simp)
  rw [List.append_nil] at htake hdrop
  simp [decimal?, htake, hdrop, hne, exponent?]

theorem decimal?_pointed {ds fs : List Char} (hne : ds ≠ []) (hds : ∀ d ∈ ds, d.isDigit)
    (hfs : ∀ d ∈ fs, d.isDigit) :
    decimal? (ds ++ '.' :: fs) = some ⟨digitsValue (ds ++ fs), -fs.length⟩ := by
  have htake := takeWhile_run ('.' :: fs) hds (by simp)
  have hdrop := dropWhile_run ('.' :: fs) hds (by simp)
  have hftake := takeWhile_run [] hfs (by simp)
  have hfdrop := dropWhile_run [] hfs (by simp)
  rw [List.append_nil] at hftake hfdrop
  simp [decimal?, htake, hdrop, hftake, hfdrop, hne, exponent?]

theorem isDigit_toDigits (n : Nat) : ∀ d ∈ Nat.toDigits 10 n, d.isDigit := fun _ hd =>
  Nat.isDigit_of_mem_toDigits (by decide) (by decide) hd

theorem isDigit_zeros (k : Nat) : ∀ d ∈ List.replicate k '0', d.isDigit := fun _ hd =>
  (List.eq_of_mem_replicate hd) ▸ rfl

/-- **Positional form keeps the value.** It is plain, and reading it gives a decimal of the
same value whose exponent counts the digits after the point. -/
theorem decimal?_positional (d : Decimal) :
    Plain d.positional ∧
      ∃ d', decimal? d.positional = some d' ∧ d'.exponent ≤ 0 ∧ d'.value = d.value := by
  have hdigits := isDigit_toDigits d.digits
  have hne : Nat.toDigits 10 d.digits ≠ [] := Nat.toDigits_ne_nil
  have hval : digitsValue (Nat.toDigits 10 d.digits) = d.digits := by simp [digitsValue_eq]
  simp only [Decimal.positional]
  split
  next he =>
    -- All digits stand before the point, with zeros after them.
    obtain ⟨k, hk⟩ := Int.eq_ofNat_of_zero_le he
    have hall : ∀ c ∈ Nat.toDigits 10 d.digits ++ List.replicate d.exponent.toNat '0', c.isDigit :=
      fun c hc => (List.mem_append.mp hc).elim (hdigits c) (isDigit_zeros _ c)
    have hne' : Nat.toDigits 10 d.digits ++ List.replicate d.exponent.toNat '0' ≠ [] := by simp
    refine ⟨.whole hne' hall, _, decimal?_whole hne' hall, le_rfl, ?_⟩
    simp [Decimal.value, digitsValue_eq, Nat.ofDigitChars_append, hk, mul_comm]
  next he =>
    obtain ⟨k, hk⟩ := Int.exists_eq_neg_ofNat (Int.le_of_lt (Int.not_le.mp he))
    have hplaces : (-d.exponent).toNat = k := by omega
    rw [hplaces]
    split
    next hlen =>
      -- The point stands among the digits.
      set ds := Nat.toDigits 10 d.digits
      have hds : ∀ c ∈ ds.take (ds.length - k), c.isDigit := fun c hc =>
        hdigits c (List.mem_of_mem_take hc)
      have hfs : ∀ c ∈ ds.drop (ds.length - k), c.isDigit := fun c hc =>
        hdigits c (List.mem_of_mem_drop hc)
      have hne' : ds.take (ds.length - k) ≠ [] := List.ne_nil_of_length_pos (by simp; omega)
      have hfne : ds.drop (ds.length - k) ≠ [] := List.ne_nil_of_length_pos (by simp; omega)
      have hcount : ds.length - (ds.length - k) = k := by omega
      refine ⟨.pointed hne' hds hfne hfs, _, decimal?_pointed hne' hds hfs, by simp, ?_⟩
      simp [Decimal.value, hval, hk, hcount]
    next hlen =>
      -- The point stands before all digits, perhaps with zeros between.
      set ds := Nat.toDigits 10 d.digits
      have hfs : ∀ c ∈ List.replicate (k - ds.length) '0' ++ ds, c.isDigit := fun c hc =>
        (List.mem_append.mp hc).elim (isDigit_zeros _ c) (hdigits c)
      have hcount : k - ds.length + ds.length = k := by omega
      have hds : ∀ c ∈ ['0'], c.isDigit := List.forall_mem_singleton.mpr rfl
      refine ⟨.pointed (List.cons_ne_nil _ _) hds (by simp [hne]) hfs, _,
        decimal?_pointed (List.cons_ne_nil _ _) hds hfs, by simp, ?_⟩
      have hzero : digitsValue ('0' :: (List.replicate (k - ds.length) '0' ++ ds)) = d.digits := by
        rw [← hval, digitsValue_eq, digitsValue_eq, Nat.ofDigitChars_cons,
          Nat.ofDigitChars_append, Nat.ofDigitChars_replicate_zero]
        simp
      simp only [Decimal.value, List.singleton_append, hzero, hk, List.length_append,
        List.length_replicate, hcount]

/-! ### Reading what was written -/

/-- Plain digits are read as a decimal, not as one of the words. -/
theorem unsigned?_plain {cs : List Char} (h : Plain cs) :
    unsigned? cs = (decimal? cs).map Decimal.toFloat := by
  obtain ⟨c, rest, rfl, hc⟩ := h.exists_cons
  have hlower : c.toLower = c := by
    rw [Char.toLower, dif_neg]
    rintro ⟨hlo, -⟩
    have hle : 'A'.toNat ≤ c.toNat := hlo
    have hge := (Char.isDigit_iff_toNat.mp hc).2
    simp only [Char.reduceToNat] at hle hge
    omega
  have hword (word : String) (hw : ∀ w ∈ word.toList.head?, w.isDigit = false) :
      String.ofList ((c :: rest).map Char.toLower) ≠ word := by
    rintro rfl
    rw [String.toList_ofList, List.map_cons, hlower] at hw
    exact absurd hc (by simp [hw c rfl])
  have hinf := hword "inf" (by simp)
  have hinfinity := hword "infinity" (by simp)
  have hnan := hword "nan" (by simp)
  simp only [unsigned?]
  rw [if_neg (not_or.mpr ⟨hinf, hinfinity⟩), if_neg hnan]

/-- The shortest digits of a magnitude are read as the number with that magnitude. -/
theorem unsigned?_shortest {b : Binary} (hb : b.Normalized) :
    unsigned? b.shortest.positional = some (ofUnpacked (hb.signed .positive)) := by
  obtain ⟨hplain, d, hd, hexp, hval⟩ := decimal?_positional b.shortest
  have hcovers : b.Covers d.value := hval ▸ Binary.covers_shortest hb.pos
  rw [unsigned?_plain hplain, hd, Option.map_some, d.toFloat_eq hb hexp hcovers]

theorem neg_ofUnpacked {u : UnpackedFloat} (hu : Canonical u) :
    -ofUnpacked u = ofUnpacked u.neg :=
  congrArg (fun w => ofUnpacked (UnpackedFloat.neg w)) hu.unpacked_ofUnpacked

theorem unpacked_zero : unpacked 0 = .zero .positive := by
  have h : (0 : Float) = ofUnpacked (.zero .positive) := by decide
  rw [h]
  exact Canonical.unpacked_ofUnpacked (u := .zero .positive) trivial

/-- How the text of a number is made up, by the kind of number. -/
theorem chars_eq (x : Float) :
    chars x =
      let sign := if isNegative x then ['-'] else []
      match unpacked x with
      | .notANumber => ['N', 'a', 'N']
      | .infinity _ => sign ++ ['i', 'n', 'f']
      | .zero _ => sign ++ ['0']
      | .finite .. => sign ++ (Binary.ofFloat x).shortest.positional := by
  have hnan : x.isNaN = (unpacked x).isNaN := rfl
  have hinf : x.isInf = (unpacked x).isInf := rfl
  have hzero : (x == 0) = (unpacked x).beq (.zero .positive) := by rw [← unpacked_zero]; rfl
  simp only [chars, hnan, hinf, hzero]
  cases unpacked x with
  | finite s m e hm => cases s <;> rfl
  | _ => rfl

/-- The number of a magnitude and a sign. -/
def withSign (y : Float) : Sign → Float
  | .positive => y
  | .negative => -y

/-- A number and its negative are written with the same digits. -/
theorem chars_signed {x y : Float} {s : Sign} {ds : List Char} (hs : signOf? (unpacked x) = some s)
    (htext : chars x = (if isNegative x then ['-'] else []) ++ ds) (hval : x = withSign y s) :
    chars x = ds ∧ x = y ∨ chars x = '-' :: ds ∧ x = -y := by
  cases s with
  | positive =>
      have hneg : ¬ isNegative x := by simp [isNegative_iff hs]
      rw [if_neg hneg] at htext
      exact .inl ⟨htext, hval⟩
  | negative =>
      rw [if_pos ((isNegative_iff hs).mpr rfl)] at htext
      exact .inr ⟨htext, hval⟩

/-- **The text of a finite number** is plain digits, read as the number or, after a minus sign,
as its negative. -/
theorem chars_finite {x : Float} (hx : x.isFinite) :
    ∃ ds y, Plain ds ∧ unsigned? ds = some y ∧
      (chars x = ds ∧ x = y ∨ chars x = '-' :: ds ∧ x = -y) := by
  have hfin : (unpacked x).isFinite := hx
  have htext := chars_eq x
  have hxu := eq_ofUnpacked (x := x) rfl
  cases hu : unpacked x with
  | notANumber => simp [hu, UnpackedFloat.isFinite] at hfin
  | infinity s => simp [hu, UnpackedFloat.isFinite] at hfin
  | zero s =>
      rw [hu] at htext hxu
      have hplain : Plain ['0'] := .whole (by simp) (List.forall_mem_singleton.mpr rfl)
      have hread : unsigned? ['0'] = some 0 := by decide
      refine ⟨['0'], 0, hplain, hread, chars_signed (by rw [hu]; rfl) htext ?_⟩
      refine hxu.trans ?_
      cases s <;> decide
  | finite s m e hm =>
      rw [hu] at htext hxu
      have hb : (⟨m, e⟩ : Binary).Normalized := by
        have hc := canonical_unpacked x
        rwa [hu] at hc
      rw [Binary.ofFloat_eq hu] at htext
      refine ⟨_, _, (decimal?_positional _).1, unsigned?_shortest hb,
        chars_signed (by rw [hu]; rfl) htext ?_⟩
      refine hxu.trans ?_
      cases s with
      | positive => rfl
      | negative => exact (neg_ofUnpacked (u := hb.signed .positive) hb).symm

/-- Plain digits are read without looking for a sign. -/
theorem read?_plain {ds : List Char} (h : Plain ds) : read? (String.ofList ds) = unsigned? ds := by
  obtain ⟨c, rest, rfl, hc⟩ := h.exists_cons
  have hminus : c ≠ '-' := by rintro rfl; exact absurd hc (by decide)
  have hplus : c ≠ '+' := by rintro rfl; exact absurd hc (by decide)
  rw [read?, String.toList_ofList]
  split
  next heq => exact absurd (List.cons.inj heq).1 hminus
  next heq => exact absurd (List.cons.inj heq).1 hplus
  next => rfl

/-- The text of a number that is not finite is one of three words. -/
theorem chars_of_not_finite {x : Float} (hx : ¬ x.isFinite) :
    chars x = ['N', 'a', 'N'] ∧ x = 0.0 / 0.0 ∨ chars x = ['i', 'n', 'f'] ∧ x = 1.0 / 0.0 ∨
      chars x = ['-', 'i', 'n', 'f'] ∧ x = -(1.0 / 0.0) := by
  have hfin : ¬ (unpacked x).isFinite := hx
  have htext := chars_eq x
  have hxu := eq_ofUnpacked (x := x) rfl
  cases hu : unpacked x with
  | notANumber =>
      rw [hu] at htext
      exact .inl ⟨htext, hxu.trans (hu ▸ by decide)⟩
  | infinity s =>
      rw [hu] at htext
      have hval : x = withSign (1.0 / 0.0) s := hxu.trans (hu ▸ by cases s <;> decide)
      exact .inr (chars_signed (by rw [hu]; rfl) htext hval)
  | zero s => simp [hu, UnpackedFloat.isFinite] at hfin
  | finite s m e hm => simp [hu, UnpackedFloat.isFinite] at hfin

/-- **Every number is read back** from its text, bit by bit. -/
theorem read?_text (x : Float) : read? (text x) = some x := by
  by_cases hx : x.isFinite
  · obtain ⟨ds, y, hplain, hread, ⟨htext, hval⟩ | ⟨htext, hval⟩⟩ := chars_finite hx
    · rw [text, htext, read?_plain hplain, hread, hval]
    · rw [read?, text, htext, String.toList_ofList]
      simp only
      rw [hread, hval]
      rfl
  · rcases chars_of_not_finite hx with ⟨htext, hval⟩ | ⟨htext, hval⟩ | ⟨htext, hval⟩ <;>
      rw [read?, text, htext, String.toList_ofList, hval] <;> decide

/-- Numbers with the same text are the same. -/
theorem chars_injective {x y : Float} (h : chars x = chars y) : x = y := by
  have hx := read?_text x
  rw [text, h] at hx
  exact Option.some.inj (hx.symm.trans (read?_text y))

end Reduct.Numeral

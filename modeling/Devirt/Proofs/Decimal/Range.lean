import Devirt.Json.Reader
import Devirt.Proofs.Decimal.Doubles

/-
  Numerals that are read as finite doubles.

  A numeral below the least number that rounds to infinity is
  read as a finite double, whether it is rounded at once or
  read as a significand that is then multiplied by a power of
  ten.  In the second case two roundings come before the last,
  so the very largest numerals are looked at one by one.

  Main declarations:
    * `Decimal.isNormal_ofScientific`
    * `Decimal.isInf_ofScaled`
    * `Json.Number.scale_isSome`
-/

------------------------------------------------------------
-- Numerals that Are Rounded at Once
------------------------------------------------------------

namespace Devirt

namespace Decimal

open Double Float.Model Float.Model.UnpackedFloat

/- Whether a normal double is exactly a power of ten. -/
def isPower (n : Nat) (x : Float) : Bool :=
  match x.toModel.unpack with
  | .finite _ m e _ =>
    2 ^ 52 ≤ m && m < 2 ^ 53 && -52 ≤ e && e ≤ 52 &&
      m * 2 ^ (e + 52).toNat == 10 ^ n * 2 ^ 52
  | _ => false

theorem isNormal_of_isPower
    {n : Nat}
    {x : Float}
    (hPower : isPower n x = true) :
    ∃ m e,
      IsNormal x m e ∧ (m : ℚ) * 2 ^ e = 10 ^ n ∧ -52 ≤ e ∧
        e ≤ 52 := by
  unfold isPower at hPower
  split at hPower
  · next sign m e hMantissa hUnpack =>
      simp only [Bool.and_eq_true, decide_eq_true_eq,
        beq_iff_eq] at hPower
      rcases hPower with ⟨⟨⟨⟨hLeast, hMost⟩, hLow⟩, hHigh⟩, hSame⟩
      refine
        ⟨m, e, ⟨⟨sign, hMantissa, hUnpack⟩, hLeast, hMost⟩, ?_,
          hLow, hHigh⟩
      have hSame :
          (m : ℚ) * 2 ^ (e + 52).toNat = 10 ^ n * 2 ^ 52 := by
        exact_mod_cast hSame
      have hShift :
          (2 : ℚ) ^ (e + 52).toNat = 2 ^ e * 2 ^ 52 := by
        rw [← zpow_natCast, Int.toNat_of_nonneg (by omega),
          zpow_add₀ (by norm_num)]
        rfl
      rw [hShift, ← mul_assoc] at hSame
      exact mul_right_cancel₀ (by norm_num) hSame
  · cases hPower

/- The first powers of ten are doubles. -/
theorem exactPowers :
    ∀ i : Fin Float.exactlyRepresentablePowersOfTen.size,
      isPower i Float.exactlyRepresentablePowersOfTen[i] =
        true := by
  decide +kernel

/- Powers of ten below the bound have small exponents. -/
theorem overflow_le_power
    {n : Nat}
    (hLarge : 309 ≤ n) :
    overflow ≤ 10 ^ n := by
  induction n, hLarge using Nat.le_induction with
  | base => decide +kernel
  | succ n _ ih =>
      rw [Nat.pow_succ]
      omega

theorem exponent_le
    {significand exponent : Nat}
    (hPositive : 0 < significand)
    (hValue :
      (significand : ℚ) * 10 ^ exponent < overflow) :
    exponent ≤ 308 := by
  by_contra hLarge
  have hWhole : significand * 10 ^ exponent < overflow := by
    exact_mod_cast hValue
  have hPower : overflow ≤ 10 ^ exponent :=
    overflow_le_power (Nat.lt_of_not_le hLarge)
  have hLeast : 10 ^ exponent ≤ significand * 10 ^ exponent :=
    Nat.le_mul_of_pos_left _ hPositive
  omega

section Scientific

variable {significand exponent : Nat}

theorem ofScientific_fast
    (hFast : significand < 2 ^ 53 ∧ exponent ≤ 22) :
    ∃ i : Fin Float.exactlyRepresentablePowersOfTen.size,
      i = exponent ∧
        Float.ofScientific significand false exponent =
          significand.toUInt64.toFloat *
            Float.exactlyRepresentablePowersOfTen[i] := by
  refine ⟨⟨exponent, Nat.lt_succ_of_le hFast.2⟩, rfl, ?_⟩
  rw [Float.ofScientific, dif_pos hFast]
  rfl

theorem ofScientific_slow
    (hPositive : 0 < significand)
    (hFast : ¬ (significand < 2 ^ 53 ∧ exponent ≤ 22))
    (hExponent : exponent ≤ 308) :
    Float.ofScientific significand false exponent =
      Float.ofModel
        (pack
          (roundWithAccuracy Format.binary64 .positive
            (significand * 2 ^ 53 * 10 ^ exponent) (-53)
            .exact)) := by
  have hSmall : ¬ (Int.ofNat exponent > 2 ^ 11) := by
    simp only [Int.ofNat_eq_natCast]
    omega
  have hLarge :
      ¬ (Int.ofNat exponent <
        -((2 ^ 11 : Int) + significand.log2)) := by
    simp only [Int.ofNat_eq_natCast]
    omega
  have hNatural : 0 ≤ Int.ofNat exponent :=
    Int.natCast_nonneg exponent
  rw [Float.ofScientific, dif_neg hFast]
  change
    Float.ofModel
        (Float.Model.ofScientific significand
          (Int.ofNat exponent)) =
      _
  unfold Float.Model.ofScientific UnpackedFloat.ofScientific
  rw [dif_neg hPositive.ne', if_neg hSmall, if_neg hLarge,
    if_pos hNatural]
  simp only [UnpackedFloat.mul, Nat.shiftLeft_eq]
  rfl

/-
  A numeral below the bound is read as a normal double that is
  hardly larger, and is even where only even numbers fit.
-/
theorem isNormal_ofScientific
    (hPositive : 0 < significand)
    (hValue :
      (significand : ℚ) * 10 ^ exponent < overflow) :
    ∃ m e,
      IsNormal (Float.ofScientific significand false exponent)
          m e ∧
        (m : ℚ) * 2 ^ e * 2 ^ 53 ≤
            significand * 10 ^ exponent * (2 ^ 53 + 1) ∧
          (2 ^ 53 ≤ significand → 1 ≤ e) := by
  by_cases hFast : significand < 2 ^ 53 ∧ exponent ≤ 22
  · -- both parts are doubles, and only their product is rounded
    rcases ofScientific_fast hFast with ⟨i, rfl, hProduct⟩
    rcases isNormal_of_isPower (exactPowers i) with
      ⟨n, f, hPower, hExact, hLow, hHigh⟩
    have hNumber := isNormal_toFloat hPositive hFast.1
    have hSame :
        ((significand * 2 ^ (52 - significand.log2) : Nat) : ℚ) *
            2 ^ (-((52 - significand.log2 : Nat) : ℤ)) =
          significand := by
      rw [zpow_neg, zpow_natCast]
      push_cast
      field_simp
    have hLog : significand.log2 ≤ 52 := by
      have hBits := (Nat.log2_lt hPositive.ne').mpr hFast.1
      omega
    rw [hProduct]
    rcases isNormal_mul hNumber hPower
        (by rwa [hSame, hExact]) (by omega) (by omega) with
      ⟨m, e, hNormal, hClose⟩
    rw [hSame, hExact] at hClose
    exact ⟨m, e, hNormal, hClose, fun hLarge => by omega⟩
  · have hExponent := exponent_le hPositive hValue
    rw [ofScientific_slow hPositive hFast hExponent]
    have hSame :
        ((significand * 2 ^ 53 * 10 ^ exponent : Nat) : ℚ) *
            2 ^ (-53 : ℤ) =
          significand * 10 ^ exponent := by
      rw [show (-53 : ℤ) = -((53 : Nat) : ℤ) from rfl, zpow_neg,
        zpow_natCast]
      push_cast
      field_simp
      norm_num
    have hLog :
        significand.log2 + 53 ≤
          (significand * 2 ^ 53 * 10 ^ exponent).log2 := by
      rw [Nat.le_log2 (by positivity)]
      calc
        2 ^ (significand.log2 + 53) =
            2 ^ significand.log2 * 2 ^ 53 * 1 := by
          rw [Nat.pow_add, Nat.mul_one]
        _ ≤ significand * 2 ^ 53 * 10 ^ exponent := by
          gcongr
          · exact Nat.log2_self_le hPositive.ne'
          · exact Nat.one_le_pow _ _ (by decide)
    rw [← hSame] at hValue
    rcases round_close .positive (by omega) (by omega) hValue
        (by omega) with ⟨m, e, hNormal, hClose, hUnit⟩
    rw [hSame] at hClose
    refine ⟨m, e, hNormal, hClose, ?_⟩
    intro hLarge
    have hBits : 53 ≤ significand.log2 :=
      (Nat.le_log2 hPositive.ne').mpr hLarge
    omega

/- A quotient by a power of ten is finite. -/
theorem isInf_ofScientific_down
    (hPositive : 0 < significand)
    (hSmall : significand < 2 ^ 64)
    (hDown : 0 < exponent) :
    (Float.ofScientific significand true exponent).isInf =
      false := by
  rw [Float.ofScientific]
  by_cases hFast : significand < 2 ^ 53 ∧ exponent ≤ 22
  · rw [dif_pos hFast]
    let i : Fin Float.exactlyRepresentablePowersOfTen.size :=
      ⟨exponent, Nat.lt_succ_of_le hFast.2⟩
    rcases isNormal_of_isPower (exactPowers i) with
      ⟨n, f, hPower, -, hLow, -⟩
    exact
      isInf_div (isNormal_toFloat hPositive hFast.1) hPower
        (by omega)
  · have hLog : significand.log2 < 64 :=
      (Nat.log2_lt hPositive.ne').mpr hSmall
    have hNegative : Int.negOfNat exponent < 0 := by
      rw [Int.negOfNat_eq]
      simpa using hDown
    have hNotUp : ¬ 0 ≤ Int.negOfNat exponent := by
      omega
    have hNotLarge : ¬ Int.negOfNat exponent > 2 ^ 11 := by
      omega
    rw [dif_neg hFast]
    apply isInf_eq_false
    change
      Bounded
        (UnpackedFloat.ofScientific Format.binary64 significand
          (Int.negOfNat exponent))
    unfold UnpackedFloat.ofScientific
    rw [dif_neg hPositive.ne', if_neg hNotLarge, if_neg hNotUp]
    split_ifs
    · trivial
    · exact div_bounded _ _ _ _ (by omega) (by omega)

end Scientific

section Scaled

variable {significand : Nat}

theorem digits_le
    (hSmall : significand < 2 ^ 64) :
    (Nat.toDigits 10 significand).length ≤ 20 :=
  (Nat.length_toDigits_le_iff (by decide) (by decide)).mpr
    (Nat.lt_trans hSmall (by decide))

/- Neither shortcut is taken for powers in range. -/
theorem ofScaled_up
    (hPositive : 0 < significand)
    (hSmall : significand < 2 ^ 64)
    {exponent : Nat}
    (hExponent : exponent ≤ 308) :
    ofScaled significand exponent =
      Float.ofScientific significand false exponent := by
  have hDigits := digits_le hSmall
  unfold ofScaled
  dsimp only
  rw [if_neg hPositive.ne', if_neg (by omega),
    if_neg (by omega), if_pos (Int.natCast_nonneg _),
    Int.toNat_natCast]

theorem isInf_ofScaled
    {exponent : Int}
    (hSmall : significand < 2 ^ 64)
    (hValue :
      (significand : ℚ) * 10 ^ exponent < overflow) :
    (ofScaled significand exponent).isInf = false := by
  rcases Nat.eq_zero_or_pos significand with rfl | hPositive
  · have hZero : ofScaled 0 exponent = 0.0 := if_pos rfl
    rw [hZero]
    decide +kernel
  · by_cases hUp : 0 ≤ exponent
    · lift exponent to Nat using hUp
      rw [zpow_natCast] at hValue
      rw [ofScaled_up hPositive hSmall
        (exponent_le hPositive hValue)]
      rcases isNormal_ofScientific hPositive hValue with
        ⟨m, e, hNormal, -⟩
      exact hNormal.isInf_eq_false
    · have hDigits := digits_le hSmall
      unfold ofScaled
      dsimp only
      rw [if_neg hPositive.ne', if_neg (by omega), if_neg hUp]
      split_ifs
      · decide +kernel
      · exact
          isInf_ofScientific_down hPositive hSmall (by omega)

end Scaled

end Decimal

end Devirt

------------------------------------------------------------
-- Significands and Powers
------------------------------------------------------------

namespace Devirt

namespace Json

open Double Decimal

namespace Number

/-
  A significand and an exponent whose product is read as a
  finite double: it is below the bound, and the largest of them
  have few digits.
-/
structure InReach (significand exponent : Nat) : Prop where
  below : significand * 10 ^ exponent < overflow
  middle :
    exponent < 292 →
      4 * (significand * 10 ^ exponent) ≤ 5 * 2 ^ 1023
  top : exponent = 292 → significand ≤ 17976931348623157

theorem isNormal_powerOfTen
    {n : Nat}
    (hExponent : n ≤ 308) :
    ∃ m e,
      IsNormal (powerOfTen n) m e ∧
        (m : ℚ) * 2 ^ e * 2 ^ 53 ≤ 10 ^ n * (2 ^ 53 + 1) := by
  have hValue : ((1 : Nat) : ℚ) * 10 ^ n < overflow := by
    have hPower : 10 ^ n < overflow := by
      apply Nat.lt_of_le_of_lt
        (Nat.pow_le_pow_right (Nat.succ_pos 9) hExponent)
      decide +kernel
    rw [Nat.cast_one, one_mul]
    exact_mod_cast hPower
  rcases isNormal_ofScientific Nat.one_pos hValue with
    ⟨m, e, hNormal, hClose, -⟩
  have hPower : powerOfTen n = Float.ofScientific 1 false n :=
    ofScaled_up Nat.one_pos (by decide) hExponent
  rw [hPower]
  exact ⟨m, e, hNormal, by simpa using hClose⟩

theorem isNormal_ofNat
    {n : Nat}
    (hPositive : 0 < n)
    (hSmall : n < 2 ^ 64) :
    ∃ m e,
      IsNormal (Decimal.ofNat n) m e ∧
        (m : ℚ) * 2 ^ e * 2 ^ 53 ≤ n * (2 ^ 53 + 1) ∧
          (2 ^ 53 ≤ n → 1 ≤ e) := by
  have hValue : (n : ℚ) * 10 ^ 0 < overflow := by
    have hBound : n < overflow :=
      Nat.lt_trans hSmall (by decide +kernel)
    rw [pow_zero, mul_one]
    exact_mod_cast hBound
  rcases isNormal_ofScientific hPositive hValue with
    ⟨m, e, hNormal, hClose, hEven⟩
  have hNumber :
      Decimal.ofNat n = Float.ofScientific n false 0 :=
    ofScaled_up hPositive hSmall (Nat.zero_le _)
  rw [hNumber]
  exact ⟨m, e, hNormal, by simpa using hClose, hEven⟩

/- Where only even numbers fit, the next one may be below. -/
theorem even_le
    {n m : Nat}
    {e : Int}
    (hSmall : n ≤ 17976931348623156)
    (hUnit : 1 ≤ e)
    (hClose : (m : ℚ) * 2 ^ e * 2 ^ 53 ≤ n * (2 ^ 53 + 1)) :
    (m : ℚ) * 2 ^ e ≤ 17976931348623156 := by
  have hEven : (m : ℚ) * 2 ^ e = ((2 * (m * 2 ^ (e - 1).toNat) : Nat) : ℚ) := by
    have hSplit : (2 : ℚ) ^ e = 2 * 2 ^ (e - 1).toNat := by
      rw [← zpow_natCast, Int.toNat_of_nonneg (by omega),
        ← zpow_one_add₀ (by norm_num)]
      congr 1
      omega
    rw [hSplit]
    push_cast
    ring
  rw [hEven] at hClose ⊢
  generalize m * 2 ^ (e - 1).toNat = half at hClose ⊢
  have hWhole : 2 * half * 2 ^ 53 ≤ n * (2 ^ 53 + 1) := by
    exact_mod_cast hClose
  have hHalf : 2 * half ≤ 17976931348623156 := by
    omega
  exact_mod_cast hHalf

/-
  The largest multiples of the largest powers of ten below the
  bound leave room for two roundings.
-/
theorem room :
    ∀ i : Fin 16,
      (overflow - 1) / 10 ^ (293 + i.val) * 10 ^ (293 + i.val) *
          (2 ^ 53 + 1) ^ 2 <
        overflow * 2 ^ 106 := by
  decide +kernel

theorem value_lt
    {significand exponent : Nat}
    (hReach : InReach significand exponent)
    (hExponent : exponent ≤ 308)
    (hOther : exponent ≠ 292) :
    significand * 10 ^ exponent * (2 ^ 53 + 1) ^ 2 <
      overflow * 2 ^ 106 := by
  by_cases hMiddle : exponent < 292
  · have hQuarter := hReach.middle hMiddle
    have hRoom :
        5 * 2 ^ 1023 * (2 ^ 53 + 1) ^ 2 <
          4 * (overflow * 2 ^ 106) := by
      decide +kernel
    generalize significand * 10 ^ exponent = value at hQuarter ⊢
    have hAll :=
      Nat.mul_le_mul_right ((2 ^ 53 + 1) ^ 2) hQuarter
    rw [Nat.mul_assoc] at hAll
    exact Nat.lt_of_mul_lt_mul_left (hAll.trans_lt hRoom)
  · have hRoom := room ⟨exponent - 293, by omega⟩
    have hSame : 293 + (exponent - 293) = exponent := by omega
    simp only [hSame] at hRoom
    have hFloor :
        significand ≤ (overflow - 1) / 10 ^ exponent := by
      rw [Nat.le_div_iff_mul_le (Nat.pow_pos (by decide))]
      have hBelow := hReach.below
      omega
    refine Nat.lt_of_le_of_lt ?_ hRoom
    gcongr

/- The largest significand of all is rounded down. -/
theorem room_top :
    17976931348623156 * 10 ^ 292 * (2 ^ 53 + 1) <
      overflow * 2 ^ 53 := by
  decide +kernel

theorem isInf_largest :
    (Decimal.ofNat 17976931348623157 * powerOfTen 292).isInf =
      false := by
  decide +kernel

/- The product of a significand and a power is finite. -/
theorem isInf_product
    {significand exponent : Nat}
    (hPositive : 0 < significand)
    (hSmall : significand < 2 ^ 64)
    (hExponent : exponent ≤ 308)
    (hReach : InReach significand exponent) :
    (Decimal.ofNat significand * powerOfTen exponent).isInf =
      false := by
  rcases isNormal_ofNat hPositive hSmall with
    ⟨m, e, hNumber, hClose, hEven⟩
  rcases isNormal_powerOfTen hExponent with
    ⟨n, f, hPower, hPowerClose⟩
  have hPowerPos : (0 : ℚ) ≤ n * 2 ^ f := by positivity
  by_cases hTop : exponent = 292
  · rcases Nat.lt_or_eq_of_le (hReach.top hTop) with
      hLess | hLargest
    · -- the significand is not rounded beyond the last even one
      have hNumberLe : (m : ℚ) * 2 ^ e ≤ 17976931348623156 := by
        by_cases hLarge : 2 ^ 53 ≤ significand
        · exact even_le (by omega) (hEven hLarge) hClose
        · have hShort : (significand : ℚ) < 2 ^ 53 := by
            exact_mod_cast Nat.lt_of_not_le hLarge
          linarith
      subst hTop
      have hRoom := (Nat.cast_lt (α := ℚ)).mpr room_top
      simp only [Nat.cast_mul, Nat.cast_pow, Nat.cast_add,
        Nat.cast_ofNat, Nat.cast_one] at hRoom
      apply isInf_mul hNumber hPower
      have hProduct :=
        mul_le_mul_of_nonneg_right hNumberLe hPowerPos
      generalize (10 : ℚ) ^ 292 = power at *
      linarith
    · subst hTop hLargest
      exact isInf_largest
  · have hProduct :
        (m : ℚ) * 2 ^ e * 2 ^ 53 * (n * 2 ^ f * 2 ^ 53) ≤
          significand * (2 ^ 53 + 1) *
            (10 ^ exponent * (2 ^ 53 + 1)) :=
      mul_le_mul hClose hPowerClose (by positivity)
        (by positivity)
    have hRoom := value_lt hReach hExponent hTop
    have hRoom := (Nat.cast_lt (α := ℚ)).mpr hRoom
    simp only [Nat.cast_mul, Nat.cast_pow, Nat.cast_add,
      Nat.cast_ofNat, Nat.cast_one] at hRoom
    apply isInf_mul hNumber hPower
    have hAll :
        (m : ℚ) * 2 ^ e * (n * 2 ^ f) * 2 ^ 106 <
          overflow * 2 ^ 106 := by
      calc
        (m : ℚ) * 2 ^ e * (n * 2 ^ f) * 2 ^ 106 =
            m * 2 ^ e * 2 ^ 53 * (n * 2 ^ f * 2 ^ 53) := by
          ring
        _ ≤ _ := hProduct
        _ = (significand : ℚ) * 10 ^ exponent *
            (2 ^ 53 + 1) ^ 2 := by
          ring
        _ < overflow * 2 ^ 106 := hRoom
    exact lt_of_mul_lt_mul_right hAll (by norm_num only)

theorem scale_isSome
    {significand exponent : Nat}
    (hPositive : 0 < significand)
    (hSmall : significand < 2 ^ 64)
    (hReach : InReach significand exponent) :
    ∃ x, scale significand exponent = some x := by
  have hExponent : exponent ≤ 308 :=
    exponent_le hPositive (by exact_mod_cast hReach.below)
  have hFinite :=
    isInf_product hPositive hSmall hExponent hReach
  unfold scale
  rw [if_neg (by omega), if_pos (by omega)]
  simp [hFinite]

end Number

end Json

end Devirt

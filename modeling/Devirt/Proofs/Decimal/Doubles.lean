import Mathlib

/-
  Doubles that stay finite.

  The model of doubles rounds a mantissa and an exponent by
  dropping bits, and turns what has too large an exponent into
  infinity.  Rounding moves a number by half a unit of its last
  place at the most, so nothing below the largest double and
  half a unit more becomes infinite.

  Main declarations:
    * `Double.dropped`, `Double.kept`, `Double.round_eq`
    * `Double.kept_half`
    * `Double.Bounded`, `Double.isInf_eq_false`
    * `Double.round_bounded`, `Double.round_bounded_of_log`
    * `Double.IsNormal`, `Double.isNormal_pack`
    * `Double.round_close`, `Double.isNormal_mul`,
      `Double.isInf_div`, `Double.isNormal_toFloat`
-/

------------------------------------------------------------
-- Rounding
------------------------------------------------------------

namespace Devirt

namespace Double

open Float.Model Float.Model.UnpackedFloat

/- How many bits of a mantissa are dropped. -/
def dropped (m : Nat) (e : Int) : Nat :=
  (max ((m.log2 : Int) + 1 + e - 53) (-1074) - e).toNat

/- What is left of a mantissa after its bits are dropped. -/
def kept (m : Nat) (e : Int) (accuracy : Accuracy) : Nat :=
  (ExtendedMantissa.ofMantissaAndAccuracy m accuracy >>>
    dropped m e).roundedMantissa

theorem targetExponent_eq
    (m : Nat)
    (e : Int) :
    Format.binary64.targetExponent (totalExponent m e) =
      max ((m.log2 : Int) + 1 + e - 53) (-1074) := by
  simp [Format.targetExponent, totalExponent,
    Format.mantissaBits, Format.minExponent]

theorem shiftToTargetExponent_eq
    (m : Nat)
    (e : Int)
    (accuracy : Accuracy) :
    shiftToTargetExponent Format.binary64 m e accuracy =
      (ExtendedMantissa.ofMantissaAndAccuracy m accuracy >>>
        dropped m e, e + dropped m e) := by
  rw [shiftToTargetExponent, targetExponent_eq]
  rfl

theorem shiftRight_succ
    (em : ExtendedMantissa)
    (k : Nat) :
    em >>> (k + 1) = (em >>> k).shiftRightOne :=
  rfl

theorem shiftRight_mantissa
    (em : ExtendedMantissa)
    (k : Nat) :
    (em >>> k).mantissa = em.mantissa / 2 ^ k := by
  induction k with
  | zero => simp [HShiftRight.hShiftRight, Nat.repeat]
  | succ k ih =>
      rw [shiftRight_succ, ExtendedMantissa.shiftRightOne, ih,
        Nat.div_div_eq_div_mul, Nat.pow_succ]

/- Rounding goes up only if the next bit is set. -/
theorem roundedMantissa_le
    (em : ExtendedMantissa) :
    em.roundedMantissa ≤
      em.mantissa + if em.roundBit then 1 else 0 := by
  rcases em with ⟨m, roundBit, stickyBit⟩
  cases roundBit <;> cases stickyBit <;>
    simp [ExtendedMantissa.roundedMantissa,
      ExtendedMantissa.accuracy, Accuracy.roundToNearestEven]
  omega

theorem le_roundedMantissa
    (em : ExtendedMantissa) :
    em.mantissa ≤ em.roundedMantissa := by
  rcases em with ⟨m, roundBit, stickyBit⟩
  cases roundBit <;> cases stickyBit <;>
    simp [ExtendedMantissa.roundedMantissa,
      ExtendedMantissa.accuracy, Accuracy.roundToNearestEven]

theorem ofMantissaAndAccuracy_mantissa
    (m : Nat)
    (accuracy : Accuracy) :
    (ExtendedMantissa.ofMantissaAndAccuracy m
      accuracy).mantissa = m := by
  rcases accuracy with _ | order
  · rfl
  · cases order <;> rfl

section Kept

variable (m : Nat)
variable (e : Int)
variable (accuracy : Accuracy)

theorem kept_le :
    kept m e accuracy ≤ m / 2 ^ dropped m e + 1 := by
  have hRounded :=
    roundedMantissa_le
      (ExtendedMantissa.ofMantissaAndAccuracy m accuracy >>>
        dropped m e)
  rw [shiftRight_mantissa, ofMantissaAndAccuracy_mantissa]
    at hRounded
  unfold kept
  split_ifs at hRounded <;> omega

theorem le_kept :
    m / 2 ^ dropped m e ≤ kept m e accuracy := by
  have hRounded :=
    le_roundedMantissa
      (ExtendedMantissa.ofMantissaAndAccuracy m accuracy >>>
        dropped m e)
  rwa [shiftRight_mantissa, ofMantissaAndAccuracy_mantissa]
    at hRounded

/- Rounding moves up by half a unit at the most. -/
theorem kept_half :
    2 * (kept m e .exact * 2 ^ dropped m e) ≤
      2 * m + 2 ^ dropped m e := by
  unfold kept
  generalize dropped m e = k
  have hRounded :=
    roundedMantissa_le
      (ExtendedMantissa.ofMantissaAndAccuracy m .exact >>> k)
  rw [shiftRight_mantissa, ofMantissaAndAccuracy_mantissa]
    at hRounded
  generalize
    (ExtendedMantissa.ofMantissaAndAccuracy m .exact >>>
      k).roundedMantissa = rounded at hRounded ⊢
  cases k with
  | zero =>
      have hBit :
          (ExtendedMantissa.ofMantissaAndAccuracy m .exact >>>
            0).roundBit = false := rfl
      rw [hBit] at hRounded
      have hExact : rounded ≤ m := by simpa using hRounded
      omega
  | succ k =>
      have hBit : rounded ≤ m / 2 ^ k / 2 + m / 2 ^ k % 2 := by
        rw [shiftRight_succ, ExtendedMantissa.shiftRightOne,
          shiftRight_mantissa, ofMantissaAndAccuracy_mantissa,
          Nat.pow_succ, ← Nat.div_div_eq_div_mul] at hRounded
        simp only [bne_iff_ne, ne_eq] at hRounded
        split_ifs at hRounded <;> omega
      have hDouble : 2 * rounded ≤ m / 2 ^ k + 1 := by omega
      have hFloor := Nat.div_mul_le_self m (2 ^ k)
      calc
        2 * (rounded * 2 ^ (k + 1)) =
            2 * (2 * rounded * 2 ^ k) := by
          rw [Nat.pow_succ]
          ring
        _ ≤ 2 * ((m / 2 ^ k + 1) * 2 ^ k) := by
          gcongr
        _ = 2 * (m / 2 ^ k * 2 ^ k) + 2 ^ (k + 1) := by
          rw [Nat.pow_succ]
          ring
        _ ≤ 2 * m + 2 ^ (k + 1) := by
          omega

theorem log2_le_dropped : m.log2 ≤ 52 + dropped m e := by
  unfold dropped
  omega

theorem kept_le_bound : kept m e accuracy ≤ 2 ^ 53 := by
  have hRounded := kept_le m e accuracy
  have hFloor : m / 2 ^ dropped m e < 2 ^ 53 := by
    rw [Nat.div_lt_iff_lt_mul (Nat.two_pow_pos _), ← Nat.pow_add]
    apply Nat.lt_of_lt_of_le Nat.lt_log2_self
    apply Nat.pow_le_pow_right (by decide)
    have hDropped := log2_le_dropped m e
    omega
  omega

end Kept

/- A mantissa that is short enough loses nothing. -/
theorem dropped_eq_zero
    {m : Nat}
    {e : Int}
    (hMantissa : m < 2 ^ 53)
    (hExponent : -1074 ≤ e) :
    dropped m e = 0 := by
  have hLog : m.log2 ≤ 52 := by
    by_cases hZero : m = 0
    · simp [hZero]
    · have hBits := (Nat.log2_lt hZero).mpr hMantissa
      omega
  unfold dropped
  omega

theorem dropped_bound
    {e : Int}
    (hExponent : -1074 ≤ e) :
    dropped (2 ^ 53) e = 1 := by
  rw [dropped, Nat.log2_two_pow]
  omega

/-
  Rounding in one step: a mantissa that grows by a bit is half
  as large with the next exponent.
-/
theorem round_eq
    (sign : Sign)
    (m : Nat)
    (e : Int)
    (accuracy : Accuracy) :
    roundWithAccuracy Format.binary64 sign m e accuracy =
      if hZero : kept m e accuracy = 0 then
        .zero sign
      else if kept m e accuracy < 2 ^ 53 then
        .finite sign (kept m e accuracy) (e + dropped m e)
          (Nat.pos_of_ne_zero hZero)
      else
        .finite sign (2 ^ 52) (e + dropped m e + 1)
          (by decide) := by
  have hLowest : -1074 ≤ e + dropped m e := by
    unfold dropped
    omega
  have hBound := kept_le_bound m e accuracy
  have hFirst :
      (ExtendedMantissa.ofMantissaAndAccuracy m accuracy >>>
        dropped m e).roundedMantissa = kept m e accuracy := rfl
  simp only [roundWithAccuracy, shiftToTargetExponent_eq, hFirst,
    shiftRight_mantissa, ofMantissaAndAccuracy_mantissa]
  by_cases hSmall : kept m e accuracy < 2 ^ 53
  · simp only [dropped_eq_zero hSmall hLowest, if_pos hSmall,
      pow_zero, Nat.div_one, Nat.cast_zero, add_zero]
  · have hLarge : kept m e accuracy = 2 ^ 53 := by omega
    simp only [hLarge, dropped_bound hLowest, lt_irrefl, if_false,
      pow_one, Nat.cast_one]
    rfl

end Double

end Devirt

------------------------------------------------------------
-- Doubles without Infinity
------------------------------------------------------------

namespace Devirt

namespace Double

open Float.Model Float.Model.UnpackedFloat

/- What is packed without becoming infinite. -/
def Bounded : UnpackedFloat → Prop
  | .infinity _ => False
  | .notANumber => True
  | .zero _ => True
  | .finite _ _ e _ => e ≤ 971

theorem isInf_unpack
    {b : BitVec Format.binary64.numBits}
    (hExponent : (unpackExponent b).toNat < 2047) :
    (UnpackedFloat.unpack Format.binary64 b).isInf = false := by
  have hFinite : unpackExponent b ≠ -1#_ := by
    intro hAll
    rw [hAll] at hExponent
    exact absurd hExponent (by decide)
  unfold UnpackedFloat.unpack
  simp only [if_neg hFinite]
  split_ifs <;> rfl

/- Only too large an exponent is packed as infinity. -/
theorem isInf_eq_false
    {u : UnpackedFloat}
    (hBounded : Bounded u) :
    (Float.ofModel (pack u)).isInf = false := by
  cases u with
  | infinity sign => cases hBounded
  | notANumber => rfl
  | zero sign => cases sign <;> rfl
  | finite sign m e hMantissa =>
      have hBounded : e ≤ 971 := hBounded
      have hBiased :
          ¬ 2 ^ 11 ≤ (e + 1023 + 52).toNat + 1 := by
        omega
      apply isInf_unpack
      change
        (unpackExponent
          (UnpackedFloat.pack Format.binary64
            (.finite sign m e hMantissa))).toNat < 2047
      unfold UnpackedFloat.pack
      dsimp only
      split_ifs with hLarge hNormal
      · exact absurd hLarge hBiased
      · rw [unpackExponent_packComponents, BitVec.toNat_ofNat]
        apply Nat.lt_of_le_of_lt (Nat.mod_le _ _)
        change (e + 1023 + 52).toNat < 2047
        omega
      · rw [unpackExponent_packComponents]
        decide

/-
  The least number that is rounded to infinity, half a unit
  above the largest double.
-/
def overflow : Nat := (2 ^ 54 - 1) * 2 ^ 970

theorem overflow_eq :
    (overflow : ℚ) = (2 ^ 54 - 1) * 2 ^ (970 : ℤ) := by
  rw [overflow, Nat.cast_mul, Nat.cast_pow, ← zpow_natCast]
  norm_num only

/- Nothing below the bound has more bits than it. -/
theorem log2_lt_of_lt_overflow
    {m : Nat}
    {e : Int}
    (hMantissa : 0 < m)
    (hValue : (m : ℚ) * 2 ^ e < overflow) :
    (m.log2 : Int) + e < 1024 := by
  by_contra hLarge
  have hPower : (2 : ℚ) ^ m.log2 ≤ m := by
    exact_mod_cast Nat.log2_self_le hMantissa.ne'
  have hBelow : (2 : ℚ) ^ (54 + 970 : ℤ) ≤ m * 2 ^ e := by
    calc
      (2 : ℚ) ^ (54 + 970 : ℤ) ≤ 2 ^ ((m.log2 : ℤ) + e) :=
        zpow_le_zpow_right₀ (by norm_num) (by omega)
      _ = 2 ^ m.log2 * 2 ^ e := by
        rw [zpow_add₀ (by norm_num), zpow_natCast]
      _ ≤ m * 2 ^ e := by
        gcongr
  have hUnit : (0 : ℚ) < 2 ^ (970 : ℤ) := zpow_pos (by norm_num) _
  rw [zpow_add₀ (by norm_num)] at hBelow
  rw [overflow_eq] at hValue
  generalize (2 : ℚ) ^ (970 : ℤ) = unit at *
  norm_num at hBelow hValue
  linarith

section Bounds

variable (sign : Sign)
variable {m : Nat}
variable {e : Int}

/- Numbers far below the bound, however they are rounded. -/
theorem round_bounded_of_log
    (accuracy : Accuracy)
    (hLog : (m.log2 : Int) + e ≤ 1022)
    (hExponent : e ≤ 970) :
    Bounded
      (roundWithAccuracy Format.binary64 sign m e accuracy) := by
  have hDropped : e + dropped m e ≤ 970 := by
    unfold dropped
    omega
  rw [round_eq]
  split_ifs
  · trivial
  · exact Int.le_trans hDropped (by decide)
  · change e + dropped m e + 1 ≤ 971
    omega

theorem round_bounded
    (hMantissa : 0 < m)
    (hValue : (m : ℚ) * 2 ^ e < overflow)
    (hExponent : e ≤ 971) :
    Bounded
      (roundWithAccuracy Format.binary64 sign m e .exact) := by
  have hLog := log2_lt_of_lt_overflow hMantissa hValue
  have hDropped : e + dropped m e ≤ 971 := by
    unfold dropped
    omega
  rw [round_eq]
  split_ifs with hZero hSmall
  · trivial
  · exact hDropped
  · -- with the largest exponent, rounding stays below the bound
    change e + dropped m e + 1 ≤ 971
    by_contra hLarge
    have hExponents : e + dropped m e = 971 := by omega
    have hHalf :
        (2 : ℚ) * (kept m e .exact * 2 ^ dropped m e) ≤
          2 * m + 2 ^ dropped m e := by
      exact_mod_cast kept_half m e
    have hKept : (2 : ℚ) ^ 53 ≤ kept m e .exact := by
      exact_mod_cast Nat.le_of_not_lt hSmall
    have hScale :
        (2 : ℚ) ^ dropped m e * 2 ^ e = 2 ^ (971 : ℤ) := by
      rw [← zpow_natCast, ← zpow_add₀ (by norm_num), add_comm,
        hExponents]
    have hPositive : (0 : ℚ) < 2 ^ e := zpow_pos (by norm_num) e
    have hUnits := mul_le_mul_of_nonneg_right hHalf hPositive.le
    have hAll :
        (2 : ℚ) * kept m e .exact * 2 ^ (971 : ℤ) ≤
          2 * (m * 2 ^ e) + 2 ^ (971 : ℤ) := by
      rw [← hScale]
      linarith
    have hUnit : (2 : ℚ) ^ (971 : ℤ) = 2 * 2 ^ (970 : ℤ) := by
      rw [show (971 : ℤ) = 1 + 970 from rfl,
        zpow_add₀ (by norm_num), zpow_one]
    have hLowest :
        (2 : ℚ) * 2 ^ 53 * 2 ^ (971 : ℤ) ≤
          2 * kept m e .exact * 2 ^ (971 : ℤ) := by
      gcongr
    rw [hUnit] at hAll hLowest
    rw [overflow_eq] at hValue
    generalize (2 : ℚ) ^ (970 : ℤ) = unit at *
    linarith

end Bounds

end Double

end Devirt

------------------------------------------------------------
-- Normal Doubles
------------------------------------------------------------

namespace Devirt

namespace Double

open Float.Model Float.Model.UnpackedFloat

/- A double with a whole mantissa, whatever its sign. -/
structure IsNormal (x : Float) (m : Nat) (e : Int) : Prop where
  unpack_eq :
    ∃ sign hMantissa,
      x.toModel.unpack = .finite sign m e hMantissa
  least : 2 ^ 52 ≤ m
  most : m < 2 ^ 53

/- A whole mantissa is packed without its first bit. -/
theorem implicit_append
    {m : Nat}
    (hLeast : 2 ^ 52 ≤ m)
    (hMost : m < 2 ^ 53) :
    (1#1 ++ BitVec.ofNat 52 m).toNat = m := by
  rw [BitVec.toNat_append,
    ← Nat.shiftLeft_add_eq_or_of_lt (BitVec.isLt _)]
  simp only [BitVec.toNat_ofNat]
  have hRest : m % 2 ^ 52 = m - 2 ^ 52 := by
    rw [Nat.mod_eq_sub_mod hLeast, Nat.mod_eq_of_lt (by omega)]
  rw [hRest, Nat.shiftLeft_eq]
  omega

/- What is packed with a whole mantissa is found again. -/
theorem unpack_pack
    (sign : Sign)
    {m : Nat}
    {e : Int}
    (hMantissa : 0 < m)
    (hLeast : 2 ^ 52 ≤ m)
    (hMost : m < 2 ^ 53)
    (hLow : -1074 ≤ e)
    (hHigh : e ≤ 971) :
    (Float.ofModel
      (pack (.finite sign m e hMantissa))).toModel.unpack =
        .finite sign m e hMantissa := by
  have hLog : m.log2 + 1 = 53 := by
    have hBits :=
      (Nat.log2_eq_iff (by omega)).mpr ⟨hLeast, hMost⟩
    omega
  have hBiased : ¬ 2 ^ 11 ≤ (e + 1023 + 52).toNat + 1 := by
    omega
  have hPacked :
      UnpackedFloat.pack Format.binary64
          (.finite sign m e hMantissa) =
        packComponents Format.binary64 sign
          (BitVec.ofNat 11 (e + 1023 + 52).toNat)
          (BitVec.ofNat 52 m) := by
    unfold UnpackedFloat.pack
    dsimp only
    split_ifs with hLarge hNormal
    · exact absurd hLarge hBiased
    · rfl
    · exact absurd hLog hNormal
  have hExponent :
      (BitVec.ofNat 11 (e + 1023 + 52).toNat).toNat =
        (e + 1023 + 52).toNat := by
    rw [BitVec.toNat_ofNat, Nat.mod_eq_of_lt (by omega)]
  have hNotLast :
      BitVec.ofNat 11 (e + 1023 + 52).toNat ≠ -1#11 := by
    intro hSame
    have hNumbers := congrArg BitVec.toNat hSame
    rw [hExponent] at hNumbers
    have hLast : (-1#11).toNat = 2047 := by decide
    omega
  have hNotZero :
      BitVec.ofNat 11 (e + 1023 + 52).toNat ≠ 0#11 := by
    intro hSame
    have hNumbers := congrArg BitVec.toNat hSame
    rw [hExponent] at hNumbers
    have hNone : (0#11).toNat = 0 := rfl
    omega
  change
    UnpackedFloat.unpack Format.binary64
        (UnpackedFloat.pack Format.binary64
          (.finite sign m e hMantissa)) =
      _
  rw [hPacked]
  unfold UnpackedFloat.unpack
  simp only [unpackExponent_packComponents,
    unpackMantissa_packComponents, unpackSign_packComponents]
  rw [if_neg hNotLast, if_neg hNotZero]
  congr 1
  · cases sign <;> rfl
  · exact implicit_append hLeast hMost
  · rw [hExponent]
    change ((e + 1023 + 52).toNat : Int) - (1023 + 52) = e
    omega

theorem isNormal_pack
    (sign : Sign)
    {m : Nat}
    {e : Int}
    (hMantissa : 0 < m)
    (hLeast : 2 ^ 52 ≤ m)
    (hMost : m < 2 ^ 53)
    (hLow : -1074 ≤ e)
    (hHigh : e ≤ 971) :
    IsNormal
      (Float.ofModel (pack (.finite sign m e hMantissa))) m
      e :=
  ⟨⟨sign, hMantissa,
      unpack_pack sign hMantissa hLeast hMost hLow hHigh⟩,
    hLeast, hMost⟩

/- A mantissa that is short enough is not rounded. -/
theorem round_short
    (sign : Sign)
    {m : Nat}
    {e : Int}
    (hMantissa : 0 < m)
    (hMost : m < 2 ^ 53)
    (hLow : -1074 ≤ e) :
    roundWithAccuracy Format.binary64 sign m e .exact =
      .finite sign m e hMantissa := by
  have hDropped := dropped_eq_zero hMost hLow
  have hKept : kept m e .exact = m := by
    rw [kept, hDropped]
    rfl
  simp only [round_eq, hKept, hDropped, dif_neg hMantissa.ne',
    if_pos hMost, Nat.cast_zero, add_zero]

/-
  Rounding keeps a mantissa whole if bits enough are there, and
  moves its value by half a unit at the most.
-/
theorem isNormal_round
    (sign : Sign)
    {m : Nat}
    {e : Int}
    (hBits : 52 ≤ m.log2)
    (hLow : -1022 ≤ (m.log2 : Int) + e)
    (hBounded :
      Bounded
        (roundWithAccuracy Format.binary64 sign m e .exact)) :
    ∃ m' e',
      IsNormal
          (Float.ofModel
            (pack
              (roundWithAccuracy Format.binary64 sign m e
                .exact))) m' e' ∧
        (m' : ℚ) * 2 ^ e' =
            kept m e .exact * 2 ^ (m.log2 - 52 + e : ℤ) ∧
          dropped m e = m.log2 - 52 ∧
            (m.log2 : Int) + e ≤ 52 + e' := by
  have hDropped : dropped m e = m.log2 - 52 := by
    unfold dropped
    omega
  have hKept : 2 ^ 52 ≤ kept m e .exact := by
    apply Nat.le_trans _ (le_kept m e .exact)
    rw [Nat.le_div_iff_mul_le (Nat.two_pow_pos _), ← Nat.pow_add,
      hDropped, Nat.add_sub_cancel' hBits]
    exact Nat.log2_self_le (by rintro rfl; simp at hBits)
  have hSum : e + (dropped m e : Int) = m.log2 - 52 + e := by
    omega
  rw [round_eq] at hBounded ⊢
  split_ifs at hBounded ⊢ with hZero hSmall
  · omega
  · have hHigh : e + dropped m e ≤ 971 := hBounded
    exact
      ⟨kept m e .exact, e + dropped m e,
        isNormal_pack sign _ hKept hSmall (by omega) hHigh,
        by rw [hSum], hDropped, by omega⟩
  · have hHigh : e + dropped m e + 1 ≤ 971 := hBounded
    have hLarge : kept m e .exact = 2 ^ 53 := by
      have hMost := kept_le_bound m e .exact
      omega
    refine
      ⟨2 ^ 52, e + dropped m e + 1,
        isNormal_pack sign _ (by decide) (by decide) (by omega)
          hHigh, ?_, hDropped, by omega⟩
    rw [hLarge, hSum, zpow_add_one₀ (by norm_num)]
    push_cast
    ring

/-
  A value below the bound is rounded to a normal double, which
  is hardly larger.
-/
theorem round_close
    (sign : Sign)
    {m : Nat}
    {e : Int}
    (hBits : 52 ≤ m.log2)
    (hLow : -1022 ≤ (m.log2 : Int) + e)
    (hValue : (m : ℚ) * 2 ^ e < overflow)
    (hExponent : e ≤ 971) :
    ∃ m' e',
      IsNormal
          (Float.ofModel
            (pack
              (roundWithAccuracy Format.binary64 sign m e
                .exact))) m' e' ∧
        (m' : ℚ) * 2 ^ e' * 2 ^ 53 ≤ m * 2 ^ e * (2 ^ 53 + 1) ∧
          (m.log2 : Int) + e ≤ 52 + e' := by
  have hMantissa : 0 < m := by
    rw [Nat.pos_iff_ne_zero]
    rintro rfl
    simp at hBits
  have hBounded := round_bounded sign hMantissa hValue hExponent
  rcases isNormal_round sign hBits hLow hBounded with
    ⟨m', e', hNormal, hSame, hDropped, hUnit⟩
  refine ⟨m', e', hNormal, ?_, hUnit⟩
  have hHalf :
      (2 : ℚ) * (kept m e .exact * 2 ^ (m.log2 - 52)) ≤
        2 * m + 2 ^ (m.log2 - 52) := by
    have hKept := kept_half m e
    rw [hDropped] at hKept
    exact_mod_cast hKept
  have hFirst : (2 : ℚ) ^ 52 * 2 ^ (m.log2 - 52) ≤ m := by
    rw [← pow_add, Nat.add_sub_cancel' hBits]
    exact_mod_cast Nat.log2_self_le hMantissa.ne'
  have hSplit :
      (2 : ℚ) ^ ((m.log2 : ℤ) - 52 + e) =
        2 ^ (m.log2 - 52) * 2 ^ e := by
    rw [zpow_add₀ (by norm_num), ← zpow_natCast,
      Nat.cast_sub hBits]
    rfl
  have hPositive : (0 : ℚ) < 2 ^ e := zpow_pos (by norm_num) e
  have hClose :
      (kept m e .exact : ℚ) * 2 ^ (m.log2 - 52) * 2 ^ 53 ≤
        m * (2 ^ 53 + 1) := by
    linarith
  rw [hSame, hSplit]
  calc
    (kept m e .exact : ℚ) * (2 ^ (m.log2 - 52) * 2 ^ e) * 2 ^ 53 =
        (kept m e .exact : ℚ) * 2 ^ (m.log2 - 52) * 2 ^ 53 *
          2 ^ e := by
      ring
    _ ≤ (m : ℚ) * (2 ^ 53 + 1) * 2 ^ e := by
      gcongr
    _ = (m : ℚ) * 2 ^ e * (2 ^ 53 + 1) := by
      ring

section Products

variable {x y : Float}
variable {m n : Nat}
variable {e f : Int}

theorem mul_eq
    (hLeft : IsNormal x m e)
    (hRight : IsNormal y n f) :
    ∃ sign,
      x * y =
        Float.ofModel
          (pack
            (roundWithAccuracy Format.binary64 sign (m * n)
              (e + f) .exact)) := by
  rcases hLeft.unpack_eq with ⟨s, hM, hLeftEq⟩
  rcases hRight.unpack_eq with ⟨t, hN, hRightEq⟩
  have hProduct :
      x * y =
        Float.ofModel
          (pack
            (UnpackedFloat.mul Format.binary64 x.toModel.unpack
              y.toModel.unpack)) := rfl
  rw [hLeftEq, hRightEq] at hProduct
  exact ⟨s * t, hProduct⟩

theorem log2_mul
    (hLeft : IsNormal x m e)
    (hRight : IsNormal y n f) :
    104 ≤ (m * n).log2 := by
  have hPositive : 0 < m * n :=
    Nat.mul_pos (by have := hLeft.least; omega)
      (by have := hRight.least; omega)
  rw [Nat.le_log2 hPositive.ne']
  calc
    2 ^ 104 = 2 ^ 52 * 2 ^ 52 := by norm_num
    _ ≤ m * n := Nat.mul_le_mul hLeft.least hRight.least

theorem value_mul
    (m n : Nat)
    (e f : Int) :
    ((m * n : Nat) : ℚ) * 2 ^ (e + f) =
      m * 2 ^ e * (n * 2 ^ f) := by
  rw [zpow_add₀ (by norm_num)]
  push_cast
  ring

/- A product of normal doubles below the bound is finite. -/
theorem isInf_mul
    (hLeft : IsNormal x m e)
    (hRight : IsNormal y n f)
    (hValue : (m : ℚ) * 2 ^ e * (n * 2 ^ f) < overflow) :
    (x * y).isInf = false := by
  rcases mul_eq hLeft hRight with ⟨sign, hProduct⟩
  have hBits := log2_mul hLeft hRight
  have hPositive : 0 < m * n := by
    rw [Nat.pos_iff_ne_zero]
    intro hZero
    simp [hZero] at hBits
  rw [← value_mul] at hValue
  have hTop := log2_lt_of_lt_overflow hPositive hValue
  rw [hProduct]
  exact
    isInf_eq_false (round_bounded sign hPositive hValue (by omega))

/- Unless it is tiny, it is hardly larger than it should be. -/
theorem isNormal_mul
    (hLeft : IsNormal x m e)
    (hRight : IsNormal y n f)
    (hValue : (m : ℚ) * 2 ^ e * (n * 2 ^ f) < overflow)
    (hLow : -1022 ≤ 104 + (e + f))
    (hHigh : e + f ≤ 971) :
    ∃ m' e',
      IsNormal (x * y) m' e' ∧
        (m' : ℚ) * 2 ^ e' * 2 ^ 53 ≤
          m * 2 ^ e * (n * 2 ^ f) * (2 ^ 53 + 1) := by
  rcases mul_eq hLeft hRight with ⟨sign, hProduct⟩
  have hBits := log2_mul hLeft hRight
  rw [← value_mul] at hValue ⊢
  rcases round_close sign (by omega) (by omega) hValue
      hHigh with ⟨m', e', hNormal, hClose, -⟩
  rw [hProduct]
  exact ⟨m', e', hNormal, hClose⟩

end Products

theorem IsNormal.isInf_eq_false
    {x : Float}
    {m : Nat}
    {e : Int}
    (hNormal : IsNormal x m e) :
    x.isInf = false := by
  rcases hNormal.unpack_eq with ⟨sign, hMantissa, hUnpack⟩
  change x.toModel.unpack.isInf = false
  rw [hUnpack]
  rfl

/- A quotient has no more bits than what is divided. -/
theorem div_bounded
    (sign other : Sign)
    {m n : Nat}
    {e f : Int}
    (hM : 0 < m)
    (hN : 0 < n)
    (hLog : (m.log2 : Int) + (e - f) ≤ 1022)
    (hExponent : e - f ≤ 970) :
    Bounded
      (UnpackedFloat.div Format.binary64 (.finite sign m e hM)
        (.finite other n f hN)) := by
  simp only [UnpackedFloat.div, divCore]
  have hTarget :=
    Int.min_le_left (e - f)
      (Format.binary64.targetExponent
        (totalExponent m e - totalExponent n f))
  generalize
    min (e - f)
      (Format.binary64.targetExponent
        (totalExponent m e - totalExponent n f)) = target
    at hTarget ⊢
  apply round_bounded_of_log
  · generalize hShift : (e - f - target).toNat = shift
    have hBits :
        (m <<< shift / n).log2 ≤ m.log2 + shift := by
      have hLess : m <<< shift / n < 2 ^ (m.log2 + shift + 1) := by
        apply Nat.lt_of_le_of_lt (Nat.div_le_self _ _)
        rw [Nat.shiftLeft_eq, Nat.add_right_comm, Nat.pow_add]
        gcongr
        exact Nat.lt_log2_self
      by_cases hZero : m <<< shift / n = 0
      · simp [hZero]
      · have hLog := (Nat.log2_lt hZero).mpr hLess
        omega
    omega
  · omega

theorem isInf_div
    {x y : Float}
    {m n : Nat}
    {e f : Int}
    (hLeft : IsNormal x m e)
    (hRight : IsNormal y n f)
    (hExponent : e - f ≤ 970) :
    (x / y).isInf = false := by
  rcases hLeft.unpack_eq with ⟨s, hM, hLeftEq⟩
  rcases hRight.unpack_eq with ⟨t, hN, hRightEq⟩
  have hQuotient :
      x / y =
        Float.ofModel
          (pack
            (UnpackedFloat.div Format.binary64 x.toModel.unpack
              y.toModel.unpack)) := rfl
  have hLog : m.log2 < 53 := (Nat.log2_lt hM.ne').mpr hLeft.most
  rw [hQuotient, hLeftEq, hRightEq]
  exact
    isInf_eq_false (div_bounded s t hM hN (by omega) hExponent)

/- A whole number that fits a mantissa keeps all its bits. -/
theorem unpack_toFloat
    {n : Nat}
    (hPositive : 0 < n)
    (hSmall : n < 2 ^ 53) :
    ∃ hMantissa,
      n.toUInt64.toFloat.toModel.unpack =
          .finite .positive (n * 2 ^ (52 - n.log2))
            (-(52 - n.log2 : Nat)) hMantissa ∧
        2 ^ 52 ≤ n * 2 ^ (52 - n.log2) ∧
          n * 2 ^ (52 - n.log2) < 2 ^ 53 := by
  have hLog : n.log2 ≤ 52 := by
    have hBits := (Nat.log2_lt hPositive.ne').mpr hSmall
    omega
  generalize hShift : 52 - n.log2 = shift
  have hLeast : 2 ^ 52 ≤ n * 2 ^ shift := by
    calc
      2 ^ 52 = 2 ^ n.log2 * 2 ^ shift := by
        rw [← Nat.pow_add]
        congr 1
        omega
      _ ≤ n * 2 ^ shift := by
        gcongr
        exact Nat.log2_self_le hPositive.ne'
  have hMost : n * 2 ^ shift < 2 ^ 53 := by
    calc
      n * 2 ^ shift < 2 ^ (n.log2 + 1) * 2 ^ shift := by
        gcongr
        exact Nat.lt_log2_self
      _ = 2 ^ 53 := by
        rw [← Nat.pow_add]
        congr 1
        omega
  have hWord : n.toUInt64.toNat = n := by
    simp
    omega
  have hRounded :
      UnpackedFloat.ofUInt64 Format.binary64 n.toUInt64 =
        .finite .positive (n * 2 ^ shift) (-(shift : Nat))
          (by omega) := by
    have hOrder : compare (n : Int) 0 = .gt := by
      rw [Int.compare_eq_gt]
      omega
    have hTarget :
        Format.binary64.targetExponent (totalExponent n 0) =
          -(shift : Nat) := by
      rw [targetExponent_eq]
      omega
    simp only [UnpackedFloat.ofUInt64, UnpackedFloat.ofNat,
      UnpackedFloat.ofInt, UnpackedFloat.normalize, hWord, hOrder,
      UnpackedFloat.round, Int.toNat_natCast, hTarget,
      decreaseExponent, zero_sub, neg_neg, Nat.shiftLeft_eq]
    exact round_short _ (by omega) hMost (by omega)
  have hFloat :
      n.toUInt64.toFloat =
        Float.ofModel
          (pack (UnpackedFloat.ofUInt64 Format.binary64
            n.toUInt64)) := rfl
  rw [hFloat, hRounded]
  exact
    ⟨_, unpack_pack _ _ hLeast hMost (by omega) (by omega),
      hLeast, hMost⟩

theorem isNormal_toFloat
    {n : Nat}
    (hPositive : 0 < n)
    (hSmall : n < 2 ^ 53) :
    IsNormal n.toUInt64.toFloat (n * 2 ^ (52 - n.log2))
      (-(52 - n.log2 : Nat)) := by
  rcases unpack_toFloat hPositive hSmall with
    ⟨hMantissa, hUnpack, hLeast, hMost⟩
  exact ⟨⟨.positive, hMantissa, hUnpack⟩, hLeast, hMost⟩

end Double

end Devirt

import Devirt.Proofs.Decimal.Nearest
import Devirt.Proofs.Decimal.Numerals

/-
  Doubles are read back from their digits.

  The digits that are found for a double stand for a number that
  it covers, so reading them gives the double again.  Some digits
  are always found: eighteen of them fall into every interval.
  Written without a power of ten, they are a numeral with the
  same value.

  Main declarations:
    * `Decimal.pointOf_below`
    * `Decimal.Binary.Proper.search_covers`
    * `Decimal.IsMagnitude`, `Decimal.IsMagnitude.ofScaled_eq`
    * `Decimal.Numeral.Spells`,
      `Decimal.IsMagnitude.write_spells`
-/

------------------------------------------------------------
-- The Place of the Point from Below
------------------------------------------------------------

namespace Devirt

namespace Decimal

open Double

theorem power_le_of_atLeastPower
    {num den : Nat}
    {e : Int}
    (hMore : atLeastPower num den e = true) :
    (den : ℚ) * 10 ^ e ≤ num := by
  unfold atLeastPower at hMore
  split_ifs at hMore with hUp
  · lift e to Nat using hUp
    simp only [Int.toNat_natCast, decide_eq_true_eq] at hMore
    rw [zpow_natCast]
    exact_mod_cast hMore
  · obtain ⟨n, rfl⟩ : ∃ n : Nat, e = -n :=
      ⟨(-e).toNat, by omega⟩
    simp only [neg_neg, Int.toNat_natCast,
      decide_eq_true_eq] at hMore
    have hMore : (den : ℚ) ≤ num * 10 ^ n := by
      exact_mod_cast hMore
    rw [zpow_neg, zpow_natCast, ← div_eq_mul_inv,
      div_le_iff₀ (by positivity)]
    exact hMore

theorem raisePoint_below
    {num den : Nat}
    (n : Nat)
    {p : Int}
    (hFirst : (den : ℚ) * 10 ^ (p - 1) ≤ num) :
    (den : ℚ) * 10 ^ (raisePoint num den n p - 1) ≤ num := by
  induction n generalizing p with
  | zero => simpa [raisePoint] using hFirst
  | succ n ih =>
      unfold raisePoint
      split_ifs with hMore
      · apply ih
        rw [add_sub_cancel_right]
        exact power_le_of_atLeastPower hMore
      · exact hFirst

/-
  Whether the powers of ten below the estimate are below the
  powers of two that it is found from.
-/
def estimateStays (l : Int) : Bool :=
  let b := l * 1233 / 4096 - 2
  10 ^ b.toNat * 2 ^ (-l).toNat ≤ 2 ^ l.toNat * 10 ^ (-b).toNat

theorem estimate_table_below :
    (List.range 2200).all
      (fun n => estimateStays ((n : Int) - 1100)) = true := by
  decide +kernel

theorem estimate_below
    {l : Int}
    (hLow : -1100 ≤ l)
    (hHigh : l < 1100) :
    (10 : ℚ) ^ (l * 1233 / 4096 - 2) ≤ 2 ^ l := by
  have hRow := List.all_eq_true.mp estimate_table_below
    (l + 1100).toNat (List.mem_range.mpr (by omega))
  have hSame : ((l + 1100).toNat : Int) - 1100 = l := by omega
  rw [hSame] at hRow
  simp only [estimateStays, decide_eq_true_eq] at hRow
  rw [zpow_eq_div 10 (by norm_num), zpow_eq_div 2 (by norm_num),
    div_le_div_iff₀ (by positivity) (by positivity)]
  exact_mod_cast hRow

/- A number is not below the power before that of its point. -/
theorem pointOf_below
    {num den : Nat}
    (hNum : 0 < num)
    (hLow : -1099 ≤ (num.log2 : Int) - den.log2)
    (hHigh : (num.log2 : Int) - den.log2 < 1100) :
    (den : ℚ) * 10 ^ (pointOf num den - 1) ≤ num := by
  apply raisePoint_below
  have hDen : (den : ℚ) ≤ 2 ^ (den.log2 + 1) := by
    exact_mod_cast Nat.lt_log2_self.le
  have hPower : (2 : ℚ) ^ num.log2 ≤ num := by
    exact_mod_cast Nat.log2_self_le hNum.ne'
  generalize hEstimate : (num.log2 : Int) - den.log2 - 1 = l
  have hTable := estimate_below (l := l) (by omega) (by omega)
  calc
    (den : ℚ) * 10 ^ (l * 1233 / 4096 - 1 - 1) =
        den * 10 ^ (l * 1233 / 4096 - 2) := by
      congr 2
      omega
    _ ≤ 2 ^ (den.log2 + 1) * 2 ^ l := by
      gcongr
    _ = 2 ^ num.log2 := by
      rw [← zpow_natCast, ← zpow_natCast,
        ← zpow_add₀ (by norm_num)]
      congr 1
      omega
    _ ≤ num := hPower

end Decimal

end Devirt

------------------------------------------------------------
-- Digits in the Interval
------------------------------------------------------------

namespace Devirt

namespace Decimal

open Double

namespace Interval

variable {i : Interval}

/- What lies in the interval is no smaller than its start. -/
theorem le_holds
    {k : Nat}
    (hHolds : i.holds k = true) :
    i.low ≤ k * i.den ∧
      (i.closed = false → i.low < k * i.den) := by
  unfold holds at hHolds
  split_ifs at hHolds with hClosed
  · simp only [Bool.and_eq_true, decide_eq_true_eq] at hHolds
    exact ⟨hHolds.1, fun hOpen => by simp [hOpen] at hClosed⟩
  · simp only [Bool.and_eq_true, decide_eq_true_eq] at hHolds
    exact ⟨hHolds.1.le, fun _ => hHolds.1⟩

theorem le_holds_scale
    {e : Int}
    {k : Nat}
    (hHolds : (i.scale e).holds k = true) :
    i.low ≤ (k : ℚ) * 10 ^ e * i.den ∧
      (i.closed = false → i.low < (k : ℚ) * 10 ^ e * i.den) := by
  rcases scale_den i e with ⟨u, -, -, hLow, hUnit, hDen⟩
  have hUnit : (0 : ℚ) < u := by exact_mod_cast hUnit
  have hSame :
      (k : ℚ) * (i.scale e).den = k * 10 ^ e * i.den * u := by
    rw [hDen]
    ring
  rcases le_holds hHolds with ⟨hLe, hLess⟩
  rw [scale_closed] at hLess
  rw [hLow] at hLe hLess
  refine ⟨?_, fun hOpen => ?_⟩
  · have hLe : (i.low : ℚ) * u ≤ k * (i.scale e).den := by
      exact_mod_cast hLe
    rw [hSame] at hLe
    exact le_of_mul_le_mul_right hLe hUnit
  · have hLess : (i.low : ℚ) * u < k * (i.scale e).den := by
      exact_mod_cast hLess hOpen
    rw [hSame] at hLess
    exact lt_of_mul_lt_mul_right hLess hUnit.le

end Interval

section Proper

variable {b : Binary}

/- The last place of a double, measured by the denominator. -/
theorem quarter_eq
    (b : Binary) :
    (4 * b.quarter.1 : ℚ) = 2 ^ b.exponent * b.quarter.2 := by
  rcases quarter_spec b with ⟨n, d, hQuarter, hExponent, -⟩
  rw [hQuarter]
  have hPower : (2 : ℚ) ^ b.exponent * 2 ^ d = 4 * 2 ^ n := by
    rw [← zpow_natCast, ← zpow_natCast, ← zpow_add₀ (by norm_num),
      show (4 : ℚ) = 2 ^ (2 : ℤ) from by norm_num,
      ← zpow_add₀ (by norm_num)]
    congr 1
    omega
  push_cast
  exact hPower.symm

theorem ofBinary_value
    (b : Binary) :
    ((Interval.ofBinary b).value : ℚ) =
      b.mantissa * 2 ^ b.exponent * (Interval.ofBinary b).den := by
  have hQuarter := quarter_eq b
  simp only [Interval.ofBinary]
  push_cast
  linear_combination (b.mantissa : ℚ) * hQuarter

theorem ofBinary_low
    (hPositive : 0 < b.mantissa) :
    ((Interval.ofBinary b).low : ℚ) =
      (b.mantissa - b.reach) * 2 ^ b.exponent *
        (Interval.ofBinary b).den := by
  have hQuarter := quarter_eq b
  simp only [Interval.ofBinary, Binary.reach]
  split_ifs
  · rw [Nat.cast_mul, Nat.cast_sub (by omega)]
    push_cast
    linear_combination ((b.mantissa : ℚ) - 1 / 4) * hQuarter
  · rw [Nat.cast_mul, Nat.cast_sub (by omega)]
    push_cast
    linear_combination ((b.mantissa : ℚ) - 1 / 2) * hQuarter

/- Digits in the interval of a double are rounded to it. -/
theorem Binary.covers_of_holds
    {e : Int}
    {k : Nat}
    (hPositive : 0 < b.mantissa)
    (hHolds : ((Interval.ofBinary b).scale e).holds k = true) :
    b.Covers (k * 10 ^ e) := by
  have hDen : (0 : ℚ) < (Interval.ofBinary b).den := by
    exact_mod_cast (ofBinary_high b).1
  have hHalf : (2 : ℚ) ^ b.exponent = 2 * 2 ^ (b.exponent - 1) := by
    rw [← zpow_one_add₀ (by norm_num)]
    congr 1
    omega
  have hEnd :
      ((b.mantissa : ℚ) + 1 / 2) * 2 ^ b.exponent =
        (2 * b.mantissa + 1) * 2 ^ (b.exponent - 1) := by
    rw [hHalf]
    ring
  rcases Interval.le_holds_scale hHolds with ⟨hLow, hAbove⟩
  rcases Binary.Fits.value_le hHolds with ⟨hHigh, hBelow⟩
  rw [ofBinary_low hPositive] at hLow hAbove
  refine ⟨le_of_mul_le_mul_right hLow hDen, ?_, fun hOdd => ?_⟩
  · rwa [hEnd]
  · have hOpen : (Interval.ofBinary b).closed = false := by
      simp [Interval.ofBinary, hOdd]
    rw [hEnd]
    exact
      ⟨lt_of_mul_lt_mul_right (hAbove hOpen) hDen.le, hBelow hOdd⟩

/- Eighteen digits tell doubles apart. -/
theorem Binary.Fits.nearest?_ne_none
    (hFits : b.Fits)
    (hPositive : 0 < b.mantissa)
    {point : Int}
    (hPoint :
      ((Interval.ofBinary b).den : ℚ) * 10 ^ (point - 1) ≤
        (Interval.ofBinary b).value) :
    ((Interval.ofBinary b).scale (point - (18 : Nat))).nearest? ≠
      none := by
  rcases Interval.scale_den (Interval.ofBinary b) (point - (18 : Nat)) with
    ⟨u, hValue, hHigh, hLow, hUnit, hDen⟩
  have hDenPositive : (0 : ℚ) < (Interval.ofBinary b).den := by
    exact_mod_cast (ofBinary_high b).1
  have hUnitPositive : (0 : ℚ) < u := by exact_mod_cast hUnit
  apply Interval.nearest?_isSome (b.quarter.1 * u)
  · have hPositiveDen :
        (0 : ℚ) <
          ((Interval.ofBinary b).scale (point - (18 : Nat))).den := by
      rw [hDen]
      positivity
    exact_mod_cast hPositiveDen
  · rw [hLow, hValue, ← Nat.add_mul]
    apply Nat.mul_le_mul_right
    simp only [Interval.ofBinary]
    rw [← Nat.succ_mul]
    apply Nat.mul_le_mul_right
    split_ifs <;> omega
  · rw [hHigh, hValue, ← Nat.add_mul]
    apply Nat.mul_le_mul_right
    simp only [Interval.ofBinary]
    rw [← Nat.succ_mul]
    apply Nat.mul_le_mul_right
    omega
  · have hWide :
        (((Interval.ofBinary b).scale (point - (18 : Nat))).den : ℚ) <
          2 * (b.quarter.1 * u) := by
      have hQuarter :
          (4 * b.quarter.1 : ℚ) =
            2 ^ b.exponent * (Interval.ofBinary b).den :=
        quarter_eq b
      have hTen : (10 : ℚ) ^ (point - 1) =
          10 ^ (point - (18 : Nat)) * 10 ^ 17 := by
        rw [← zpow_natCast, ← zpow_add₀ (by norm_num)]
        congr 1
        omega
      have hShort : (b.mantissa : ℚ) < 2 ^ 53 := by
        exact_mod_cast hFits.short
      have hScale :
          (0 : ℚ) < 2 ^ b.exponent * (Interval.ofBinary b).den := by
        positivity
      rw [ofBinary_value, hTen] at hPoint
      have hLess :
          (Interval.ofBinary b).den * (10 : ℚ) ^ (point - (18 : Nat)) <
            2 * b.quarter.1 := by
        generalize (10 : ℚ) ^ (point - (18 : Nat)) = unit at hPoint ⊢
        have hValue :
            (b.mantissa : ℚ) * (2 ^ b.exponent * (Interval.ofBinary b).den) <
              2 ^ 53 * (2 ^ b.exponent * (Interval.ofBinary b).den) :=
          mul_lt_mul_of_pos_right hShort hScale
        linarith
      rw [hDen, ← mul_assoc]
      exact mul_lt_mul_of_pos_right hLess hUnitPositive
    exact_mod_cast hWide

/- The shortest digits are found, and are rounded back. -/
theorem Binary.Proper.search_covers
    (hProper : b.Proper) :
    ∃ d : Digits,
      search (Interval.ofBinary b)
          (pointOf (Interval.ofBinary b).value
            (Interval.ofBinary b).den) 18 1 = d ∧
        0 < d.significand ∧
          b.Covers (d.significand * 10 ^ d.exponent) := by
  have hValue : 0 < (Interval.ofBinary b).value := by
    have hQuarter : 0 < b.quarter.1 := by
      rcases quarter_spec b with ⟨n, d, hQuarter, -, -⟩
      rw [hQuarter]
      exact Nat.two_pow_pos n
    have hPositive := hProper.positive
    exact Nat.mul_pos (by omega) hQuarter
  have hPoint :=
    pointOf_below hValue hProper.log2_bounds.1
      hProper.log2_bounds.2
  generalize
    pointOf (Interval.ofBinary b).value (Interval.ofBinary b).den =
      point at hPoint
  rcases search_spec (Interval.ofBinary b) point 18 1 with
    ⟨-, hNone⟩ | ⟨k, n, -, -, hSame, hNearest, -⟩
  · exact
      absurd (hNone 18 (by decide) (by decide))
        (hProper.nearest?_ne_none hProper.positive hPoint)
  · refine ⟨_, hSame, ?_⟩
    have hCovers :=
      Binary.covers_of_holds hProper.positive
        (Interval.nearest?_spec hNearest).1
    have hStrip :=
      (strip_spec 20 ⟨k, point - n⟩).1
    dsimp only at hStrip
    rw [← hStrip] at hCovers
    refine ⟨Nat.pos_of_ne_zero fun hZero => ?_, hCovers⟩
    have hLeast := hCovers.lt_of_least hProper
    rw [hZero, Nat.cast_zero, zero_mul] at hLeast
    exact absurd hLeast (not_lt.mpr (by positivity))

end Proper

/- The exact value of a finite word that is not zero. -/
theorem ofBits_proper
    {bits : UInt64}
    (hFinite : bits.toNat / 2 ^ 52 % 2 ^ 11 < 2047)
    (hPositive : 0 < (Binary.ofBits bits).mantissa) :
    (Binary.ofBits bits).Proper := by
  refine ⟨ofBits_fits hFinite, hPositive, ?_⟩
  simp only [Binary.ofBits, Nat.pow_eq, Int.ofNat_eq_natCast]
  split_ifs with hZero
  · dsimp only
    omega
  · dsimp only
    intro hPower hLater
    simp only [Bool.and_eq_true, beq_iff_eq, bne_iff_ne]
    omega

end Decimal

end Devirt

------------------------------------------------------------
-- Magnitudes
------------------------------------------------------------

namespace Devirt

namespace Decimal

open Double Float.Model Float.Model.UnpackedFloat

/- The double of a numeral that is not too large. -/
def IsMagnitude (x : Float) : Prop :=
  x.toBits.toNat < 2047 * 2 ^ 52

section Magnitudes

variable {x : Float}

theorem eq_of_toBits
    {x y : Float}
    (hBits : x.toBits.toNat = y.toBits.toNat) :
    x = y := by
  rcases x with ⟨⟨bits, _⟩⟩
  rcases y with ⟨⟨other, _⟩⟩
  have hSame : bits = other := UInt64.toNat_inj.mp hBits
  subst hSame
  rfl

theorem IsMagnitude.sign
    (hMagnitude : IsMagnitude x) :
    x.toBits.toNat < 2 ^ 63 := by
  unfold IsMagnitude at hMagnitude
  omega

theorem IsMagnitude.finite
    (hMagnitude : IsMagnitude x) :
    x.toBits.toNat / 2 ^ 52 % 2 ^ 11 < 2047 := by
  unfold IsMagnitude at hMagnitude
  omega

/- Only zero has no mantissa. -/
theorem IsMagnitude.eq_zero_or_positive
    (hMagnitude : IsMagnitude x) :
    x = 0 ∨ 0 < (Binary.ofBits x.toBits).mantissa := by
  rcases Nat.eq_zero_or_pos (Binary.ofBits x.toBits).mantissa with
    hZero | hPositive
  · left
    apply eq_of_toBits
    have hWhole := (ofBits_fits hMagnitude.finite).whole
    have hWord := toNat_ofBits hMagnitude.sign
    have hNone : (0 : Float).toBits.toNat = 0 := by decide +kernel
    omega
  · exact Or.inr hPositive

/- The parts of the word of a double. -/
theorem toNat_unpackExponent
    (bits : UInt64) :
    (@unpackExponent Format.binary64 bits.toBitVec).toNat =
      bits.toNat / 2 ^ 52 % 2 ^ 11 := by
  change
    (BitVec.extractLsb 62 52 bits.toBitVec).toNat =
      bits.toNat / 2 ^ 52 % 2 ^ 11
  rw [BitVec.extractLsb_toNat, Nat.shiftRight_eq_div_pow]
  rfl

theorem toNat_unpackMantissa
    (bits : UInt64) :
    (@unpackMantissa Format.binary64 bits.toBitVec).toNat =
      bits.toNat % 2 ^ 52 := by
  change
    (BitVec.extractLsb 51 0 bits.toBitVec).toNat =
      bits.toNat % 2 ^ 52
  rw [BitVec.extractLsb_toNat, Nat.shiftRight_zero]
  rfl

theorem unpackSign_eq
    {bits : UInt64}
    (hSign : bits.toNat < 2 ^ 63) :
    @unpackSign Format.binary64 bits.toBitVec = 0#1 := by
  apply BitVec.eq_of_toNat_eq
  change
    (BitVec.extractLsb 63 63 bits.toBitVec).toNat = 0
  rw [BitVec.extractLsb_toNat, Nat.shiftRight_eq_div_pow]
  change bits.toNat / 2 ^ 63 % 2 = 0
  omega

/- A positive double is unpacked to its exact value. -/
theorem unpack_ofBits
    {bits : UInt64}
    (hSign : bits.toNat < 2 ^ 63)
    (hFinite : bits.toNat / 2 ^ 52 % 2 ^ 11 < 2047)
    (hPositive : 0 < (Binary.ofBits bits).mantissa) :
    UnpackedFloat.unpack Format.binary64 bits.toBitVec =
      .finite .positive (Binary.ofBits bits).mantissa
        (Binary.ofBits bits).exponent hPositive := by
  have hExponent := toNat_unpackExponent bits
  have hMantissa := toNat_unpackMantissa bits
  have hNotLast :
      @unpackExponent Format.binary64 bits.toBitVec ≠ -1#11 := by
    intro hLast
    rw [hLast] at hExponent
    have hAll : (-1#11).toNat = 2047 := by decide
    omega
  have hFirst :
      @unpackExponent Format.binary64 bits.toBitVec = 0#11 ↔
        bits.toNat / 2 ^ 52 % 2 ^ 11 = 0 := by
    rw [← BitVec.toNat_inj, hExponent]
    rfl
  have hNothing :
      @unpackMantissa Format.binary64 bits.toBitVec = 0#52 ↔
        bits.toNat % 2 ^ 52 = 0 := by
    rw [← BitVec.toNat_inj, hMantissa]
    rfl
  have hBias :
      (Format.binary64.exponentBias : Int) + (52 : Nat) = 1075 :=
    rfl
  have hAppend :
      (1#1 ++ @unpackMantissa Format.binary64 bits.toBitVec).toNat =
        2 ^ 52 + bits.toNat % 2 ^ 52 := by
    rw [BitVec.toNat_append,
      ← Nat.shiftLeft_add_eq_or_of_lt (BitVec.isLt _), hMantissa]
    rfl
  unfold UnpackedFloat.unpack
  dsimp only
  rw [if_neg hNotLast]
  simp only [hFirst, hNothing, unpackSign_eq hSign, hBias]
  by_cases hZero : bits.toNat / 2 ^ 52 % 2 ^ 11 = 0
  · have hParts :
        Binary.ofBits bits = ⟨bits.toNat % 2 ^ 52, -1074, false⟩ := by
      rw [Binary.ofBits]
      exact if_pos hZero
    have hSome : bits.toNat % 2 ^ 52 ≠ 0 := by
      rw [hParts] at hPositive
      exact hPositive.ne'
    rw [if_pos hZero, dif_neg hSome, UnpackedFloat.finite.injEq,
      hParts, hExponent, hMantissa, hZero]
    exact ⟨rfl, rfl, rfl⟩
  · have hParts :
        (Binary.ofBits bits).mantissa =
            bits.toNat % 2 ^ 52 + 2 ^ 52 ∧
          (Binary.ofBits bits).exponent =
            ((bits.toNat / 2 ^ 52 % 2 ^ 11 : Nat) : Int) - 1075 := by
      rw [Binary.ofBits]
      dsimp only [Nat.pow_eq]
      rw [if_neg hZero]
      exact ⟨rfl, rfl⟩
    rw [if_neg hZero, UnpackedFloat.finite.injEq, hExponent, hAppend,
      hParts.1, hParts.2]
    exact ⟨rfl, Nat.add_comm _ _, rfl⟩

theorem IsMagnitude.unpack_eq
    (hMagnitude : IsMagnitude x)
    (hPositive : 0 < (Binary.ofBits x.toBits).mantissa) :
    x.toModel.unpack =
      .finite .positive (Binary.ofBits x.toBits).mantissa
        (Binary.ofBits x.toBits).exponent hPositive :=
  unpack_ofBits hMagnitude.sign hMagnitude.finite hPositive

theorem IsMagnitude.beq_zero
    (hMagnitude : IsMagnitude x)
    (hPositive : 0 < (Binary.ofBits x.toBits).mantissa) :
    (x == 0) = false := by
  have hZero : (0 : Float).toModel.unpack = .zero .positive := rfl
  change x.toModel.unpack.beq (0 : Float).toModel.unpack = false
  rw [hMagnitude.unpack_eq hPositive, hZero]
  rfl

theorem IsMagnitude.proper
    (hMagnitude : IsMagnitude x)
    (hPositive : 0 < (Binary.ofBits x.toBits).mantissa) :
    (Binary.ofBits x.toBits).Proper :=
  ofBits_proper hMagnitude.finite hPositive

/- The shortest digits of a magnitude are rounded to it. -/
theorem IsMagnitude.shortest_spec
    (hMagnitude : IsMagnitude x) :
    x = 0 ∧ shortest x = ⟨0, 0⟩ ∨
      (Binary.ofBits x.toBits).Proper ∧
        0 < (shortest x).significand ∧
          (Binary.ofBits x.toBits).Covers
            ((shortest x).significand *
              10 ^ (shortest x).exponent) := by
  rcases hMagnitude.eq_zero_or_positive with rfl | hPositive
  · exact Or.inl ⟨rfl, if_pos rfl⟩
  · right
    have hProper := hMagnitude.proper hPositive
    rcases hProper.search_covers with ⟨d, hSearch, hSome, hCovers⟩
    have hShortest : shortest x = d := by
      unfold shortest shortestOfBits
      rw [hMagnitude.beq_zero hPositive]
      exact hSearch
    rw [hShortest]
    exact ⟨hProper, hSome, hCovers⟩

/- Whatever they are written as, they are read back. -/
theorem IsMagnitude.ofScaled_eq
    (hMagnitude : IsMagnitude x)
    {s : Nat}
    {e : Int}
    (hValue :
      (s : ℚ) * 10 ^ e =
        (shortest x).significand * 10 ^ (shortest x).exponent) :
    ofScaled s e = x := by
  have hTen : (10 : ℚ) ^ e ≠ 0 := zpow_ne_zero e (by norm_num)
  rcases hMagnitude.shortest_spec with
    ⟨rfl, hNothing⟩ | ⟨hProper, hSome, hCovers⟩
  · rw [hNothing, Nat.cast_zero, zero_mul, mul_eq_zero,
      Nat.cast_eq_zero] at hValue
    have hZero : ofScaled 0 e = 0.0 := if_pos rfl
    rw [hValue.resolve_right hTen, hZero]
    exact eq_of_toBits (by decide +kernel)
  · have hPositive : 0 < s := by
      rw [Nat.pos_iff_ne_zero]
      rintro rfl
      rw [Nat.cast_zero, zero_mul, eq_comm, mul_eq_zero,
        Nat.cast_eq_zero] at hValue
      exact
        hValue.elim hSome.ne' (zpow_ne_zero _ (by norm_num))
    rw [← hValue] at hCovers
    exact
      ofScaled_nearest hMagnitude.sign hProper hPositive hCovers

theorem IsMagnitude.shortest_point
    (hMagnitude : IsMagnitude x)
    (hSome : (shortest x).significand ≠ 0) :
    -324 < (shortest x).point ∧ (shortest x).point ≤ 309 := by
  rcases hMagnitude.shortest_spec with
    ⟨-, hNothing⟩ | ⟨hProper, hPositive, hCovers⟩
  · exact absurd (by rw [hNothing]) hSome
  · exact hCovers.point_bounds hProper hPositive

theorem IsMagnitude.isNaN
    (hMagnitude : IsMagnitude x) :
    x.isNaN = false := by
  rcases hMagnitude.eq_zero_or_positive with rfl | hPositive
  · rfl
  · change x.toModel.unpack.isNaN = false
    rw [hMagnitude.unpack_eq hPositive]
    rfl

theorem IsMagnitude.isInf
    (hMagnitude : IsMagnitude x) :
    x.isInf = false := by
  rcases hMagnitude.eq_zero_or_positive with rfl | hPositive
  · rfl
  · change x.toModel.unpack.isInf = false
    rw [hMagnitude.unpack_eq hPositive]
    rfl

end Magnitudes

end Decimal

end Devirt

------------------------------------------------------------
-- Plain Numerals
------------------------------------------------------------

namespace Devirt

namespace Decimal

/-
  A numeral without a power that stands for given digits.
-/
structure Numeral.Spells (n : Numeral) (d : Digits) : Prop where
  wholeDigits : ∀ c ∈ n.whole, c.isDigit = true
  fractionDigits : ∀ c ∈ n.fraction, c.isDigit = true
  whole_ne_nil : n.whole ≠ []
  noPower : n.power = none
  value :
    (n.significand : ℚ) * 10 ^ n.exponent =
      d.significand * 10 ^ d.exponent

section Spelled

variable {n : Numeral}
variable {d : Digits}

theorem Numeral.Writes.spells
    (hWrites : n.Writes d)
    (hPlain : n.power = none) :
    n.Spells d where
  wholeDigits := hWrites.wholeDigits
  fractionDigits := hWrites.fractionDigits
  whole_ne_nil := by
    rcases hWrites.lead with hZero | ⟨c, cs, hWhole, -⟩
    · simp [hZero]
    · simp [hWhole]
  noPower := hPlain
  value := hWrites.value

/- Zeros behind the digits stand for a power. -/
theorem Numeral.spells_behind
    {n : Nat}
    (hPoint : d.point = n)
    (hLength : d.text.length ≤ n) :
    Numeral.Spells
      ⟨d.text ++ List.replicate (n - d.text.length) '0', [], none⟩
      d := by
  have hExponent : d.exponent = (n - d.text.length : Nat) := by
    unfold Digits.point at hPoint
    omega
  constructor
  · intro c hMember
    rcases List.mem_append.mp hMember with hDigit | hZero
    · exact isDigit_text hDigit
    · rw [List.eq_of_mem_replicate hZero]
      rfl
  · simp
  · have hSome := text_length_pos d
    intro hNone
    simp [List.append_eq_nil_iff.mp hNone] at hSome
  · rfl
  · have hZero : exponent
        ⟨d.text ++ List.replicate (n - d.text.length) '0', [],
          none⟩ = 0 := rfl
    rw [significand, List.append_nil, natOfDigits_append,
      natOfDigits_zeros, natOfDigits_text, List.length_replicate,
      hZero, hExponent, zpow_natCast]
    push_cast
    ring

theorem Numeral.spells_zero
    (hZero : d.significand = 0) :
    Numeral.Spells ⟨['0'], [], none⟩ d := by
  constructor
  · simp
  · simp
  · simp
  · rfl
  · rw [hZero]
    simp [significand, natOfDigits]

/- All the digits of a magnitude are written out. -/
theorem plain_spells
    (hSmall : d.significand < 2 ^ 64)
    (hPoint :
      d.significand ≠ 0 → -324 < d.point ∧ d.point ≤ 309) :
    ∃ n : Numeral, plain.writeDigits d = n.text ∧ n.Spells d := by
  by_cases hZero : d.significand = 0
  · exact
      ⟨⟨['0'], [], none⟩, if_pos hZero, Numeral.spells_zero hZero⟩
  · rcases hPoint hZero with ⟨hLeast, hMost⟩
    have hPositive := Nat.pos_of_ne_zero hZero
    have hDigits := text_length_pos d
    have hWritten :
        plain.writeDigits d = plain.positional d.text d.point := by
      unfold Style.writeDigits
      rw [if_neg hZero, if_pos]
      constructor <;> simp only [plain] <;> omega
    rw [hWritten]
    unfold Style.positional
    dsimp only
    split_ifs with hBefore hBehind hKeep
    · refine
        ⟨_, ?_,
          (Numeral.writes_before hPositive hSmall hBefore).spells
            rfl⟩
      simp only [Numeral.text, Numeral.pointText, Numeral.powerText]
      rw [if_neg]
      · simp
      · simp
        intro _ hNone
        simp [hNone] at hDigits
    · cases hKeep
    · refine
        ⟨_, ?_,
          Numeral.spells_behind
            (Int.toNat_of_nonneg (by omega)).symm hBehind⟩
      simp [Numeral.text, Numeral.pointText, Numeral.powerText]
    · refine
        ⟨_, ?_,
          (Numeral.writes_among d.point.toNat none hPositive hSmall
            (by omega) (by simp) (Or.inl (by omega)) ?_).spells
            rfl⟩
      · simp only [Numeral.text, Numeral.pointText,
          Numeral.powerText]
        rw [if_neg]
        · simp
        · simp
          omega
      · simp only [Numeral.exponent, Numeral.powerValue,
          List.length_drop]
        unfold Digits.point at hBefore hBehind ⊢
        omega

/- A magnitude is written as a numeral that spells its digits. -/
theorem IsMagnitude.write_spells
    {x : Float}
    (hMagnitude : IsMagnitude x) :
    ∃ n : Numeral,
      (plain.write x).toList = n.text ∧ n.Spells (shortest x) := by
  have hNumber := hMagnitude.isNaN
  have hFinite := hMagnitude.isInf
  rcases plain_spells (shortest_finite hNumber hFinite).small
      hMagnitude.shortest_point with
    ⟨n, hText, hSpells⟩
  refine ⟨n, ?_, hSpells⟩
  have hSign : ¬ x.toBits ≥ 0x8000000000000000 := by
    have hSign := hMagnitude.sign
    rw [ge_iff_le, UInt64.le_iff_toNat_le]
    change ¬ 2 ^ 63 ≤ x.toBits.toNat
    omega
  simp only [Style.write, hNumber, hFinite, hText, hSign,
    Bool.false_eq_true, if_false, decide_false, Bool.false_and,
    String.toList_ofList]

end Spelled

end Decimal

end Devirt

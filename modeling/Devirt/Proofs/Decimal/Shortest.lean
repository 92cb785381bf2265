import Devirt.Proofs.Decimal.Range

/-
  The shortest digits of a double stay in reach.

  The digits of a double lie in its interval, so they stand for
  a number below the one that rounds to infinity.  There are
  eighteen of them at the most.  Of the largest doubles, whose
  interval is wider than a unit of the seventeenth digit, there
  are fewer.

  Main declarations:
    * `Decimal.pointOf_spec`
    * `Decimal.search_spec`, `Decimal.Binary.Fits`
    * `Decimal.Digits.Finite`, `Decimal.shortest_finite`
-/

------------------------------------------------------------
-- The Place of the Point
------------------------------------------------------------

namespace Devirt

namespace Decimal

open Double

theorem lt_power_of_atLeastPower
    {num den : Nat}
    {e : Int}
    (hLess : atLeastPower num den e = false) :
    (num : ℚ) < den * 10 ^ e := by
  unfold atLeastPower at hLess
  split_ifs at hLess with hUp
  · lift e to Nat using hUp
    simp only [Int.toNat_natCast, decide_eq_false_iff_not,
      Nat.not_le] at hLess
    rw [zpow_natCast]
    exact_mod_cast hLess
  · obtain ⟨n, rfl⟩ : ∃ n : Nat, e = -n :=
      ⟨(-e).toNat, by omega⟩
    simp only [neg_neg, Int.toNat_natCast,
      decide_eq_false_iff_not, Nat.not_le] at hLess
    have hLess : (num : ℚ) * 10 ^ n < den := by
      exact_mod_cast hLess
    rw [zpow_neg, zpow_natCast, ← div_eq_mul_inv,
      lt_div_iff₀ (by positivity)]
    exact hLess

theorem raisePoint_spec
    {num den : Nat}
    (n : Nat)
    {p : Int}
    (hLast : (num : ℚ) < den * 10 ^ (p + n)) :
    (num : ℚ) < den * 10 ^ raisePoint num den n p := by
  induction n generalizing p with
  | zero => simpa [raisePoint] using hLast
  | succ n ih =>
      unfold raisePoint
      split_ifs with hMore
      · apply ih
        rw [Nat.cast_succ, add_comm (n : Int), ← add_assoc]
          at hLast
        exact hLast
      · exact
          lt_power_of_atLeastPower (Bool.eq_false_iff.mpr hMore)

/-
  Whether the powers of ten by the estimate are above the powers
  of two that they are found from.
-/
def estimateHolds (l : Int) : Bool :=
  let a := l + 2
  let b := l * 1233 / 4096 + 7
  2 ^ a.toNat * 10 ^ (-b).toNat ≤ 10 ^ b.toNat * 2 ^ (-a).toNat

theorem estimate_table :
    (List.range 2200).all
      (fun n => estimateHolds ((n : Int) - 1100)) = true := by
  decide +kernel

theorem zpow_eq_div
    (x : ℚ)
    (hNonzero : x ≠ 0)
    (n : Int) :
    x ^ n = x ^ n.toNat / x ^ (-n).toNat := by
  rw [← zpow_natCast, ← zpow_natCast, ← zpow_sub₀ hNonzero]
  congr 1
  omega

theorem estimate_spec
    {l : Int}
    (hLow : -1100 ≤ l)
    (hHigh : l < 1100) :
    (2 : ℚ) ^ (l + 2) ≤ 10 ^ (l * 1233 / 4096 + 7) := by
  have hRow := List.all_eq_true.mp estimate_table
    (l + 1100).toNat (List.mem_range.mpr (by omega))
  have hSame : ((l + 1100).toNat : Int) - 1100 = l := by omega
  rw [hSame] at hRow
  simp only [estimateHolds, decide_eq_true_eq] at hRow
  rw [zpow_eq_div 2 (by norm_num), zpow_eq_div 10 (by norm_num),
    div_le_div_iff₀ (by positivity) (by positivity)]
  exact_mod_cast hRow

/- A number is below the power of ten of its point. -/
theorem pointOf_spec
    {num den : Nat}
    (hDen : 0 < den)
    (hLow : -1099 ≤ (num.log2 : Int) - den.log2)
    (hHigh : (num.log2 : Int) - den.log2 < 1100) :
    (num : ℚ) < den * 10 ^ pointOf num den := by
  apply raisePoint_spec
  have hNum : (num : ℚ) < 2 ^ (num.log2 + 1) := by
    exact_mod_cast Nat.lt_log2_self
  have hPower : (2 : ℚ) ^ den.log2 ≤ den := by
    exact_mod_cast Nat.log2_self_le hDen.ne'
  generalize hEstimate : (num.log2 : Int) - den.log2 - 1 = l
  have hTable := estimate_spec (l := l) (by omega) (by omega)
  calc
    (num : ℚ) < 2 ^ (num.log2 + 1) := hNum
    _ = 2 ^ den.log2 * 2 ^ (l + 2) := by
      rw [← zpow_natCast, ← zpow_natCast,
        ← zpow_add₀ (by norm_num)]
      congr 1
      omega
    _ ≤ den * 10 ^ (l * 1233 / 4096 + 7) := by
      gcongr
    _ = den * 10 ^ (l * 1233 / 4096 - 1 + (8 : Nat)) := by
      congr 2
      omega

end Decimal

end Devirt

------------------------------------------------------------
-- Intervals
------------------------------------------------------------

namespace Devirt

namespace Decimal

namespace Interval

variable {i : Interval}

/- Units of a power of ten, measured by the denominator. -/
theorem scale_den
    (i : Interval)
    (e : Int) :
    ∃ u : Nat,
      (i.scale e).value = i.value * u ∧
        (i.scale e).high = i.high * u ∧
          (i.scale e).low = i.low * u ∧
            0 < u ∧ ((i.scale e).den : ℚ) = i.den * 10 ^ e * u := by
  unfold scale
  split_ifs with hUp
  · lift e to Nat using hUp
    refine ⟨1, by simp, by simp, by simp, Nat.one_pos, ?_⟩
    simp
  · refine
      ⟨10 ^ (-e).toNat, rfl, rfl, rfl, Nat.pow_pos (by decide), ?_⟩
    have hPower : (10 : ℚ) ^ e * (10 ^ (-e).toNat : Nat) = 1 := by
      rw [Nat.cast_pow, ← zpow_natCast, Int.toNat_of_nonneg
        (by omega), Nat.cast_ofNat, ← zpow_add₀ (by norm_num)]
      simp
    simp only
    rw [mul_assoc, hPower, mul_one]

@[simp]
theorem scale_closed
    (i : Interval)
    (e : Int) :
    (i.scale e).closed = i.closed := by
  unfold scale
  split_ifs <;> rfl

/- What lies in the interval is no larger than its end. -/
theorem holds_le
    {k : Nat}
    (hHolds : i.holds k = true) :
    k * i.den ≤ i.high ∧
      (i.closed = false → k * i.den < i.high) := by
  unfold holds at hHolds
  split_ifs at hHolds with hClosed
  · simp only [Bool.and_eq_true, decide_eq_true_eq] at hHolds
    exact ⟨hHolds.2, fun hOpen => by simp [hOpen] at hClosed⟩
  · simp only [Bool.and_eq_true, decide_eq_true_eq] at hHolds
    exact ⟨hHolds.2.le, fun _ => hHolds.2⟩

theorem holds_scale
    {e : Int}
    {k : Nat}
    (hHolds : (i.scale e).holds k = true) :
    (k : ℚ) * 10 ^ e * i.den ≤ i.high ∧
      (i.closed = false → (k : ℚ) * 10 ^ e * i.den < i.high) := by
  rcases scale_den i e with ⟨u, -, hHigh, -, hUnit, hDen⟩
  have hUnit : (0 : ℚ) < u := by exact_mod_cast hUnit
  have hSame :
      (k : ℚ) * (i.scale e).den = k * 10 ^ e * i.den * u := by
    rw [hDen]
    ring
  rcases holds_le hHolds with ⟨hLe, hLess⟩
  rw [scale_closed] at hLess
  rw [hHigh] at hLe hLess
  refine ⟨?_, fun hOpen => ?_⟩
  · have hLe : (k : ℚ) * (i.scale e).den ≤ i.high * u := by
      exact_mod_cast hLe
    rw [hSame] at hLe
    exact le_of_mul_le_mul_right hLe hUnit
  · have hLess : (k : ℚ) * (i.scale e).den < i.high * u := by
      exact_mod_cast hLess hOpen
    rw [hSame] at hLess
    exact lt_of_mul_lt_mul_right hLess hUnit.le

theorem nearest?_spec
    {k : Nat}
    (hNearest : i.nearest? = some k) :
    i.holds k = true ∧ k ≤ i.value / i.den + 1 := by
  unfold nearest? at hNearest
  dsimp only at hNearest
  split at hNearest
  · cases hNearest
  · next hBelow _ =>
      cases hNearest
      exact ⟨hBelow, Nat.le_succ _⟩
  · next _ hAbove =>
      cases hNearest
      exact ⟨hAbove, Nat.le_refl _⟩
  · next hBelow hAbove =>
      split_ifs at hNearest
      · cases hNearest
        exact ⟨hBelow, Nat.le_succ _⟩
      · cases hNearest
        exact ⟨hAbove, Nat.le_refl _⟩

/- What is found has no more digits than are looked for. -/
theorem nearest?_le
    {point : Int}
    {count k : Nat}
    (hDen : 0 < i.den)
    (hPoint : (i.value : ℚ) < i.den * 10 ^ point)
    (hNearest : (i.scale (point - count)).nearest? = some k) :
    k ≤ 10 ^ count := by
  have hNext := (nearest?_spec hNearest).2
  rcases scale_den i (point - count) with
    ⟨u, hValue, -, -, hUnit, hScaled⟩
  have hBelow :
      (i.scale (point - count)).value / (i.scale (point - count)).den <
        10 ^ count := by
    have hPositive : (0 : ℚ) < (i.scale (point - count)).den := by
      rw [hScaled]
      positivity
    rw [Nat.div_lt_iff_lt_mul (by exact_mod_cast hPositive)]
    have hUnits : (i.value : ℚ) * u < i.den * 10 ^ point * u := by
      have hUnit : (0 : ℚ) < u := by exact_mod_cast hUnit
      gcongr
    have hPower :
        (10 : ℚ) ^ point = 10 ^ count * 10 ^ (point - count) := by
      rw [← zpow_natCast, ← zpow_add₀ (by norm_num)]
      congr 1
      omega
    have hAll :
        (((i.scale (point - count)).value : Nat) : ℚ) <
          10 ^ count * (i.scale (point - count)).den := by
      rw [hValue, hScaled, Nat.cast_mul]
      calc
        (i.value : ℚ) * u < i.den * 10 ^ point * u := hUnits
        _ = 10 ^ count * (i.den * 10 ^ (point - count) * u) := by
          rw [hPower]
          ring
    exact_mod_cast hAll
  omega

/-
  If half a unit is less than the interval reaches either way,
  there is a whole number of units in it.
-/
theorem nearest?_isSome
    (reach : Nat)
    (hDen : 0 < i.den)
    (hLow : i.low + reach ≤ i.value)
    (hHigh : i.value + reach ≤ i.high)
    (hWide : i.den < 2 * reach) :
    i.nearest? ≠ none := by
  intro hNone
  have hBoth :
      i.holds (i.value / i.den) = false ∧
        i.holds (i.value / i.den + 1) = false := by
    unfold nearest? at hNone
    dsimp only at hNone
    split at hNone
    · next hBelow hAbove => exact ⟨hBelow, hAbove⟩
    · cases hNone
    · cases hNone
    · split_ifs at hNone
  have hInside
      {k : Nat}
      (hLess : i.low < k * i.den)
      (hMore : k * i.den < i.high) :
      i.holds k = true := by
    unfold holds
    split_ifs <;> simp [hLess, hMore, hLess.le, hMore.le]
  have hDivision := Nat.div_add_mod' i.value i.den
  have hRest := Nat.mod_lt i.value hDen
  rcases Nat.lt_or_ge i.den (2 * (i.value % i.den)) with
    hFar | hNear
  · have hAbove :
        (i.value / i.den + 1) * i.den =
          i.value / i.den * i.den + i.den := by
      ring
    have hHolds :=
      hInside (k := i.value / i.den + 1) (by omega) (by omega)
    simp [hHolds] at hBoth
  · have hHolds :=
      hInside (k := i.value / i.den) (by omega) (by omega)
    simp [hHolds] at hBoth

end Interval

/- Taking zeros from the end keeps the number. -/
theorem strip_spec
    (n : Nat)
    (d : Digits) :
    ((d.strip n).significand : ℚ) * 10 ^ (d.strip n).exponent =
        d.significand * 10 ^ d.exponent ∧
      (d.strip n).significand ≤ d.significand ∧
        d.exponent ≤ (d.strip n).exponent ∧
          ((d.strip n).exponent = d.exponent → d.strip n = d) := by
  induction n generalizing d with
  | zero => simp [Digits.strip]
  | succ n ih =>
      unfold Digits.strip
      split_ifs with hZero
      · rcases ih ⟨d.significand / 10, d.exponent + 1⟩ with
          ⟨hSame, hLess, hMore, -⟩
        dsimp only at hSame hLess hMore
        refine ⟨?_, by omega, by omega, by omega⟩
        have hTen :
            (d.significand : ℚ) = (d.significand / 10 : Nat) * 10 := by
          have hWhole : d.significand = d.significand / 10 * 10 := by
            omega
          exact_mod_cast hWhole
        rw [hSame, hTen, zpow_add_one₀ (by norm_num)]
        ring
      · simp

/- The search ends with the first grid that has a hit. -/
theorem search_spec
    (i : Interval)
    (point : Int)
    (fuel count : Nat) :
    (search i point fuel count = ⟨0, 0⟩ ∧
        ∀ m, count ≤ m → m < count + fuel →
          (i.scale (point - m)).nearest? = none) ∨
      ∃ k n,
        count ≤ n ∧ n < count + fuel ∧
          search i point fuel count =
              (Digits.mk k (point - n)).strip 20 ∧
            (i.scale (point - n)).nearest? = some k ∧
              ∀ m, count ≤ m → m < n →
                (i.scale (point - m)).nearest? = none := by
  induction fuel generalizing count with
  | zero => exact Or.inl ⟨rfl, fun m hLeast hLess => by omega⟩
  | succ fuel ih =>
      unfold search
      dsimp only
      split
      · next k hNearest =>
          exact
            Or.inr
              ⟨k, count, Nat.le_refl _, by omega, rfl, hNearest,
                fun m hLeast hLess => by omega⟩
      · next hNone =>
          have hFirst
              {m : Nat}
              (hBefore :
                count + 1 ≤ m → (i.scale (point - m)).nearest? = none)
              (hLeast : count ≤ m) :
              (i.scale (point - m)).nearest? = none := by
            rcases Nat.eq_or_lt_of_le hLeast with rfl | hLater
            · exact hNone
            · exact hBefore hLater
          rcases ih (count + 1) with ⟨hNothing, hBefore⟩ | hFound
          · refine Or.inl ⟨hNothing, fun m hLeast hLess => ?_⟩
            exact
              hFirst (fun hLater => hBefore m hLater (by omega))
                hLeast
          · rcases hFound with
              ⟨k, n, hLeast, hMost, hSame, hNearest, hBefore⟩
            refine
              Or.inr
                ⟨k, n, by omega, by omega, hSame, hNearest, ?_⟩
            intro m hLeast hLess
            exact hFirst (fun hLater => hBefore m hLater hLess) hLeast

end Decimal

end Devirt

------------------------------------------------------------
-- Finite Doubles
------------------------------------------------------------

namespace Devirt

namespace Decimal

open Double Float.Model Float.Model.UnpackedFloat

/- The exact values of finite doubles. -/
structure Binary.Fits (b : Binary) : Prop where
  short : b.mantissa < 2 ^ 53
  least : -1074 ≤ b.exponent
  most : b.exponent ≤ 971
  whole : -1074 < b.exponent → 2 ^ 52 ≤ b.mantissa
  narrow : b.narrowBelow = true → b.mantissa = 2 ^ 52

theorem ofBits_fits
    {bits : UInt64}
    (hFinite : bits.toNat / 2 ^ 52 % 2 ^ 11 < 2047) :
    (Binary.ofBits bits).Fits := by
  have hFraction : bits.toNat % 2 ^ 52 < 2 ^ 52 :=
    Nat.mod_lt _ (by decide)
  simp only [Binary.ofBits, Nat.pow_eq]
  generalize bits.toNat / 2 ^ 52 % 2 ^ 11 = biased at hFinite ⊢
  generalize bits.toNat % 2 ^ 52 = fraction at hFraction ⊢
  split_ifs with hZero
  · constructor <;> dsimp only
    · omega
    · decide
    · decide
    · simp
    · simp
  · constructor <;> simp only [Int.ofNat_eq_natCast]
    · omega
    · omega
    · omega
    · omega
    · intro hNarrow
      simp only [Bool.and_eq_true, beq_iff_eq] at hNarrow
      omega

theorem biased_lt
    {x : Float}
    (hNumber : x.isNaN = false)
    (hFinite : x.isInf = false) :
    x.toBits.toNat / 2 ^ 52 % 2 ^ 11 < 2047 := by
  let exponent : BitVec 11 :=
    @unpackExponent Format.binary64 x.toBits.toBitVec
  have hExponent :
      exponent.toNat = x.toBits.toNat / 2 ^ 52 % 2 ^ 11 := by
    change
      (BitVec.extractLsb 62 52 x.toBits.toBitVec).toNat =
        x.toBits.toNat / 2 ^ 52 % 2 ^ 11
    rw [BitVec.extractLsb_toNat, Nat.shiftRight_eq_div_pow]
    rfl
  rw [← hExponent]
  by_contra hLarge
  have hLast : exponent = -1#11 := by
    apply BitVec.eq_of_toNat_eq
    have hBound := exponent.isLt
    have hAll : (-1#11).toNat = 2047 := by decide
    omega
  have hUnpack :
      x.toModel.unpack.isNaN = true ∨
        x.toModel.unpack.isInf = true := by
    change
      (UnpackedFloat.unpack Format.binary64
          x.toBits.toBitVec).isNaN = true ∨
        (UnpackedFloat.unpack Format.binary64
          x.toBits.toBitVec).isInf = true
    unfold UnpackedFloat.unpack
    dsimp only
    rw [if_pos hLast]
    split_ifs
    · exact Or.inr rfl
    · exact Or.inl rfl
  rcases hUnpack with hNaN | hInf
  · exact absurd hNaN (by rw [Bool.not_eq_true]; exact hNumber)
  · exact absurd hInf (by rw [Bool.not_eq_true]; exact hFinite)

/- A quarter of the last place is a power of two. -/
theorem quarter_spec
    (b : Binary) :
    ∃ n d : Nat,
      b.quarter = (2 ^ n, 2 ^ d) ∧
        (n : Int) - d = b.exponent - 2 ∧ (n = 0 ∨ d = 0) := by
  unfold Binary.quarter
  split_ifs with hUp
  · exact
      ⟨(b.exponent - 2).toNat, 0, rfl, by omega, Or.inr rfl⟩
  · exact
      ⟨0, (2 - b.exponent).toNat, rfl, by omega, Or.inl rfl⟩

section Fits

variable {b : Binary}

theorem ofBinary_high
    (b : Binary) :
    0 < (Interval.ofBinary b).den ∧
      ((Interval.ofBinary b).high : ℚ) =
        (2 * b.mantissa + 1) * 2 ^ (b.exponent - 1) *
          (Interval.ofBinary b).den := by
  rcases quarter_spec b with ⟨n, d, hQuarter, hExponent, -⟩
  simp only [Interval.ofBinary, hQuarter]
  refine ⟨Nat.two_pow_pos d, ?_⟩
  have hPower :
      (2 : ℚ) ^ (b.exponent - 1) * 2 ^ d = 2 * 2 ^ n := by
    rw [← zpow_natCast, ← zpow_natCast, ← zpow_add₀ (by norm_num),
      ← zpow_one_add₀ (by norm_num)]
    congr 1
    omega
  push_cast
  rw [mul_assoc, hPower]
  ring

/- The digits of a double lie below the end of its interval. -/
theorem Binary.Fits.value_le
    {e : Int}
    {k : Nat}
    (hHolds : ((Interval.ofBinary b).scale e).holds k = true) :
    (k : ℚ) * 10 ^ e ≤
        (2 * b.mantissa + 1) * 2 ^ (b.exponent - 1) ∧
      (b.mantissa % 2 = 1 →
        (k : ℚ) * 10 ^ e <
          (2 * b.mantissa + 1) * 2 ^ (b.exponent - 1)) := by
  rcases ofBinary_high b with ⟨hDen, hHigh⟩
  have hDen : (0 : ℚ) < (Interval.ofBinary b).den := by
    exact_mod_cast hDen
  rcases Interval.holds_scale hHolds with ⟨hLe, hLess⟩
  rw [hHigh] at hLe hLess
  refine ⟨le_of_mul_le_mul_right hLe hDen, fun hOdd => ?_⟩
  have hOpen : (Interval.ofBinary b).closed = false := by
    simp [Interval.ofBinary, hOdd]
  exact lt_of_mul_lt_mul_right (hLess hOpen) hDen.le

/- The end of an interval grows with mantissa and exponent. -/
theorem end_le
    {m n : Nat}
    {e f : Int}
    (hMantissa : m ≤ n)
    (hExponent : e ≤ f) :
    (2 * (m : ℚ) + 1) * 2 ^ (e - 1) ≤ (2 * n + 1) * 2 ^ (f - 1) := by
  have hMantissa : (m : ℚ) ≤ n := by exact_mod_cast hMantissa
  have hPower : (2 : ℚ) ^ (e - 1) ≤ 2 ^ (f - 1) :=
    zpow_le_zpow_right₀ (by norm_num) (by omega)
  gcongr

theorem Binary.Fits.value_lt
    {e : Int}
    {k : Nat}
    (hFits : b.Fits)
    (hHolds : ((Interval.ofBinary b).scale e).holds k = true) :
    (k : ℚ) * 10 ^ e < overflow := by
  rcases Binary.Fits.value_le hHolds with ⟨hLe, hLess⟩
  have hShort := hFits.short
  rw [overflow_eq]
  by_cases hLargest : b.mantissa = 2 ^ 53 - 1
  · -- an odd mantissa leaves the end out
    refine (hLess (by omega)).trans_le ?_
    refine (end_le (Nat.le_refl _) hFits.most).trans ?_
    rw [hLargest]
    norm_num
  · refine hLe.trans_lt ?_
    refine
      (end_le (n := 2 ^ 53 - 2) (by omega) hFits.most).trans_lt ?_
    norm_num

/-
  Where no multiple of the power is found, the number is one
  of the smaller ones, or the interval is narrow below it.
-/
theorem Binary.Fits.small_of_none
    (hFits : b.Fits)
    (hNone :
      ((Interval.ofBinary b).scale 292).nearest? = none) :
    b.exponent ≤ 970 ∨ b.mantissa = 2 ^ 52 := by
  by_contra hLarge
  rw [not_or] at hLarge
  have hExponent : b.exponent = 971 := by
    have hMost := hFits.most
    omega
  have hWhole := hFits.whole (by omega)
  have hNarrow : b.narrowBelow = false := by
    rw [Bool.eq_false_iff]
    exact fun hNarrow => hLarge.2 (hFits.narrow hNarrow)
  rcases quarter_spec b with ⟨n, d, hQuarter, hSum, hOne⟩
  have hUp : n = 969 ∧ d = 0 := by omega
  have hInterval :
      (Interval.ofBinary b).scale 292 =
        ⟨(4 * b.mantissa - 2) * 2 ^ n, 4 * b.mantissa * 2 ^ n,
          (4 * b.mantissa + 2) * 2 ^ n,
          2 ^ d * Nat.pow 10 (292 : Int).toNat,
          b.mantissa % 2 == 0⟩ := by
    rw [Interval.ofBinary, hQuarter, hNarrow]
    rfl
  rw [hInterval] at hNone
  refine
    Interval.nearest?_isSome (2 * 2 ^ n)
      (Nat.mul_pos (Nat.two_pow_pos d)
        (Nat.pow_pos (Nat.succ_pos 9))) ?_ ?_ ?_ hNone
  · rw [← Nat.add_mul]
    apply Nat.mul_le_mul_right
    omega
  · rw [← Nat.add_mul]
  · have hWide :
        2 ^ 0 * Nat.pow 10 (292 : Int).toNat <
          2 * (2 * 2 ^ 969) := by
      decide +kernel
    rw [hUp.1, hUp.2]
    exact hWide

/- Numbers whose digits end before the power are not large. -/
theorem Binary.Fits.value_le_middle
    {e : Int}
    {k : Nat}
    (hFits : b.Fits)
    (hHolds : ((Interval.ofBinary b).scale e).holds k = true)
    (hNone :
      ((Interval.ofBinary b).scale 292).nearest? = none) :
    4 * ((k : ℚ) * 10 ^ e) ≤ 5 * 2 ^ 1023 := by
  have hLe := (Binary.Fits.value_le hHolds).1
  have hShort := hFits.short
  have hEnd :
      (2 * (b.mantissa : ℚ) + 1) * 2 ^ (b.exponent - 1) ≤
        (2 ^ 53 + 1) * 2 ^ (970 : ℤ) := by
    rcases hFits.small_of_none hNone with hSmall | hNarrow
    · refine
        (end_le (n := 2 ^ 53 - 1) (by omega) hSmall).trans ?_
      have hHalf : (2 : ℚ) ^ (970 : ℤ) = 2 * 2 ^ (970 - 1 : ℤ) := by
        rw [← zpow_one_add₀ (by norm_num)]
        rfl
      rw [hHalf]
      have hUnit : (0 : ℚ) < 2 ^ (970 - 1 : ℤ) :=
        zpow_pos (by norm_num) _
      generalize (2 : ℚ) ^ (970 - 1 : ℤ) = unit at hUnit ⊢
      norm_num
      linarith
    · refine (end_le hNarrow.le hFits.most).trans ?_
      norm_num
  have hPower : (2 : ℚ) ^ 1023 = 2 ^ 53 * 2 ^ (970 : ℤ) := by
    rw [← zpow_natCast, ← zpow_natCast, ← zpow_add₀ (by norm_num)]
    rfl
  have hUnit : (0 : ℚ) < 2 ^ (970 : ℤ) := zpow_pos (by norm_num) _
  rw [hPower]
  generalize (2 : ℚ) ^ (970 : ℤ) = unit at hEnd hUnit ⊢
  linarith

theorem not_end_le
    {k m p n : Nat}
    (hBelow : (2 * m + 1) * 2 ^ n < k * 10 ^ p) :
    ¬ (k : ℚ) * 10 ^ (p : ℤ) ≤ (2 * m + 1) * 2 ^ (n : ℤ) := by
  rw [not_le, zpow_natCast, zpow_natCast]
  exact_mod_cast hBelow

/- The largest double of all has fewer digits than could be. -/
theorem Binary.Fits.ne_above
    {k : Nat}
    (hFits : b.Fits)
    (hNearest :
      ((Interval.ofBinary b).scale 292).nearest? = some k) :
    k ≠ 17976931348623158 := by
  rintro rfl
  have hHolds := (Interval.nearest?_spec hNearest).1
  have hLe := (Binary.Fits.value_le hHolds).1
  have hShort := hFits.short
  have hMost := hFits.most
  -- no other double reaches as far
  have hExponent : b.exponent = 971 := by
    by_contra hOther
    refine not_end_le (m := 2 ^ 53 - 1) (n := 969) ?_
      (hLe.trans (end_le (f := 970) (by omega) (by omega)))
    decide +kernel
  have hMantissa : b.mantissa = 2 ^ 53 - 1 := by
    by_contra hOther
    refine not_end_le (m := 2 ^ 53 - 2) (n := 970) ?_
      (hLe.trans (end_le (f := 971) (by omega) (by omega)))
    decide +kernel
  have hNarrow : b.narrowBelow = false := by
    rw [Bool.eq_false_iff]
    intro hNarrow
    have hLeast := hFits.narrow hNarrow
    omega
  have hLargest : b = ⟨2 ^ 53 - 1, 971, false⟩ := by
    rcases b with ⟨m, e, narrow⟩
    simp only at hMantissa hExponent hNarrow
    rw [hMantissa, hExponent, hNarrow]
  rw [hLargest] at hNearest
  revert hNearest
  decide +kernel

/- No double is beyond the table of estimates. -/
theorem Binary.Fits.log2_bounds
    (hFits : b.Fits) :
    -1099 ≤
        ((Interval.ofBinary b).value.log2 : Int) -
          (Interval.ofBinary b).den.log2 ∧
      ((Interval.ofBinary b).value.log2 : Int) -
          (Interval.ofBinary b).den.log2 <
        1100 := by
  rcases quarter_spec b with ⟨n, d, hQuarter, hExponent, hOne⟩
  have hShort := hFits.short
  have hLeast := hFits.least
  have hMost := hFits.most
  simp only [Interval.ofBinary, hQuarter]
  have hUpper : (4 * b.mantissa * 2 ^ n).log2 ≤ 54 + n := by
    by_cases hZero : 4 * b.mantissa * 2 ^ n = 0
    · simp [hZero]
    · have hBits :
          4 * b.mantissa * 2 ^ n < 2 ^ (55 + n) := by
        rw [Nat.pow_add]
        gcongr
        omega
      have hLog := (Nat.log2_lt hZero).mpr hBits
      omega
  have hLower :
      b.exponent = -1074 ∨ n ≤ (4 * b.mantissa * 2 ^ n).log2 := by
    by_cases hWhole : -1074 < b.exponent
    · have hMantissa := hFits.whole hWhole
      refine Or.inr ?_
      have hPower := Nat.two_pow_pos n
      rw [Nat.le_log2 (by positivity)]
      exact Nat.le_mul_of_pos_left _ (by omega)
    · exact Or.inl (by omega)
  rw [Nat.log2_two_pow]
  omega

/- The point of a double is found by the estimate. -/
theorem Binary.Fits.value_lt_point
    (hFits : b.Fits) :
    ((Interval.ofBinary b).value : ℚ) <
      (Interval.ofBinary b).den *
        10 ^ pointOf (Interval.ofBinary b).value
          (Interval.ofBinary b).den :=
  pointOf_spec (ofBinary_high b).1 hFits.log2_bounds.1
    hFits.log2_bounds.2

end Fits

/- Digits that are read as a finite double. -/
structure Digits.Finite (d : Digits) : Prop where
  small : d.significand < 2 ^ 64
  below : (d.significand : ℚ) * 10 ^ d.exponent < overflow
  reach :
    ∀ n : Nat, d.exponent = n →
      Json.Number.InReach d.significand n

theorem Digits.finite_zero : Digits.Finite ⟨0, 0⟩ := by
  have hPositive : 0 < overflow := by decide +kernel
  refine ⟨by decide, ?_, ?_⟩
  · rw [Nat.cast_zero, zero_mul]
    exact_mod_cast hPositive
  · rintro n -
    exact
      ⟨by rwa [Nat.zero_mul],
        fun _ => by rw [Nat.zero_mul]; exact Nat.zero_le _,
        fun _ => Nat.zero_le _⟩

/-
  Digits found before the power of the largest doubles stand
  for no large number: either the point is not so far, or the
  power was tried without a hit.
-/
theorem Binary.Fits.found_middle
    {b : Binary}
    {point : Int}
    {k n : Nat}
    (hFits : b.Fits)
    (hPoint :
      ((Interval.ofBinary b).value : ℚ) <
        (Interval.ofBinary b).den * 10 ^ point)
    (hNearest :
      ((Interval.ofBinary b).scale (point - n)).nearest? = some k)
    (hBefore :
      ∀ m, 1 ≤ m → m < n →
        ((Interval.ofBinary b).scale (point - m)).nearest? = none)
    (hMiddle : point - n < 292) :
    4 * ((k : ℚ) * 10 ^ (point - n)) ≤ 5 * 2 ^ 1023 := by
  by_cases hNear : point ≤ 292
  · have hDigits :=
      Interval.nearest?_le (ofBinary_high b).1 hPoint hNearest
    have hSplit :
        (10 : ℚ) ^ point = 10 ^ n * 10 ^ (point - n) := by
      rw [← zpow_natCast, ← zpow_add₀ (by norm_num)]
      congr 1
      omega
    have hPower : (10 : ℚ) ^ point ≤ 10 ^ (292 : ℤ) :=
      zpow_le_zpow_right₀ (by norm_num) hNear
    have hRoom : 4 * (10 : ℚ) ^ (292 : ℤ) ≤ 5 * 2 ^ 1023 := by
      have hWhole : 4 * 10 ^ 292 ≤ 5 * 2 ^ 1023 := by
        decide +kernel
      have hWhole := (Nat.cast_le (α := ℚ)).mpr hWhole
      simp only [Nat.cast_mul, Nat.cast_pow, Nat.cast_ofNat]
        at hWhole
      exact hWhole
    have hDigits : (k : ℚ) ≤ 10 ^ n := by exact_mod_cast hDigits
    calc
      4 * ((k : ℚ) * 10 ^ (point - n)) ≤
          4 * (10 ^ n * 10 ^ (point - n)) := by
        gcongr
      _ = 4 * 10 ^ point := by
        rw [hSplit]
      _ ≤ 4 * 10 ^ (292 : ℤ) :=
        mul_le_mul_of_nonneg_left hPower (by norm_num)
      _ ≤ 5 * 2 ^ 1023 := hRoom
  · have hNone := hBefore (point - 292).toNat (by omega) (by omega)
    rw [Int.toNat_of_nonneg (by omega), sub_sub_cancel] at hNone
    exact
      hFits.value_le_middle (Interval.nearest?_spec hNearest).1
        hNone

theorem Binary.Fits.finite_digits
    {b : Binary}
    (hFits : b.Fits) :
    (search (Interval.ofBinary b)
      (pointOf (Interval.ofBinary b).value
        (Interval.ofBinary b).den) 18 1).Finite := by
  have hPoint := hFits.value_lt_point
  generalize
    pointOf (Interval.ofBinary b).value (Interval.ofBinary b).den =
      point at hPoint ⊢
  rcases search_spec (Interval.ofBinary b) point 18 1 with
    ⟨hNothing, -⟩ |
      ⟨k, n, hLeast, hMost, hSame, hNearest, hBefore⟩
  · rw [hNothing]
    exact Digits.finite_zero
  · have hDigits :=
      Interval.nearest?_le (ofBinary_high b).1 hPoint hNearest
    have hHolds := (Interval.nearest?_spec hNearest).1
    have hBelow := hFits.value_lt hHolds
    have hMiddle := hFits.found_middle hPoint hNearest hBefore
    rcases strip_spec 20 ⟨k, point - n⟩ with
      ⟨hValue, hLess, hMore, hStays⟩
    rw [hSame]
    generalize
      (Digits.mk k (point - n)).strip 20 = d at hValue hLess hMore hStays ⊢
    dsimp only at hValue hLess hMore hStays
    rw [← hValue] at hBelow hMiddle
    have hPower : (10 : Nat) ^ n ≤ 10 ^ 18 :=
      Nat.pow_le_pow_right (by decide) (by omega)
    refine ⟨by omega, hBelow, ?_⟩
    intro e hExponent
    rw [hExponent, zpow_natCast] at hBelow hMiddle
    have hBelow : d.significand * 10 ^ e < overflow := by
      exact_mod_cast hBelow
    have hMiddle
        (hEarly : point - n < 292) :
        4 * (d.significand * 10 ^ e) ≤ 5 * 2 ^ 1023 := by
      rw [← Nat.cast_le (α := ℚ)]
      simp only [Nat.cast_mul, Nat.cast_pow, Nat.cast_ofNat]
      exact hMiddle hEarly
    refine ⟨hBelow, fun hSmall => hMiddle (by omega), ?_⟩
    rintro rfl
    have hAbove : d.significand ≠ 17976931348623158 := by
      intro hAll
      by_cases hEarly : point - n < 292
      · have hFew := hMiddle hEarly
        rw [hAll] at hFew
        revert hFew
        decide +kernel
      · have hTop : point - (n : Int) = 292 := by omega
        rw [hStays (by omega)] at hAll
        rw [hTop] at hNearest
        exact hFits.ne_above hNearest hAll
    have hLimit : overflow < 17976931348623159 * 10 ^ 292 := by
      decide +kernel
    have hFew : d.significand < 17976931348623159 :=
      Nat.lt_of_mul_lt_mul_right (hBelow.trans hLimit)
    clear hBelow hLimit
    omega

theorem shortest_finite
    {x : Float}
    (hNumber : x.isNaN = false)
    (hFinite : x.isInf = false) :
    (shortest x).Finite := by
  unfold shortest
  split_ifs
  · exact Digits.finite_zero
  · exact (ofBits_fits (biased_lt hNumber hFinite)).finite_digits

end Decimal

end Devirt

import Devirt.Proofs.Decimal.Shortest

/-
  Numerals are read as their nearest doubles.

  A double covers the numbers that round to it: those closer to
  it than to any other double, and the ones half way if its last
  bit is even.  Rounding keeps the leading bits of a number and
  notes what the dropped ones were worth, so a number is rounded
  to the double that covers it.  Multiplying with an exact power
  of ten and dividing by it round once, and longer numerals are
  rounded once as a whole.

  Main declarations:
    * `Double.Truncates`, the bits that are kept of a number
    * `Decimal.Binary.Covers`, `Decimal.Binary.Proper`
    * `Decimal.round_nearest`, `Decimal.mul_nearest`,
      `Decimal.div_nearest`
    * `Decimal.ofScaled_nearest`
-/

------------------------------------------------------------
-- Dropped Bits
------------------------------------------------------------

namespace Devirt

namespace Double

open Float.Model Float.Model.UnpackedFloat

/- What a bit behind the point is worth. -/
def half (bit : Bool) : ℚ :=
  if bit then 1 / 2 else 0

@[simp]
theorem half_false : half false = 0 := rfl

@[simp]
theorem half_true : half true = 1 / 2 := rfl

theorem half_nonneg (bit : Bool) : 0 ≤ half bit := by
  cases bit <;> norm_num [half]

theorem half_le (bit : Bool) : half bit ≤ 1 / 2 := by
  cases bit <;> norm_num [half]

/-
  An extended mantissa is what is left of a number whose lower
  bits are dropped.
-/
structure Truncates (em : ExtendedMantissa) (w : ℚ) : Prop where
  floor_le : em.mantissa + half em.roundBit ≤ w
  lt_next : w < em.mantissa + half em.roundBit + 1 / 2
  exact_iff :
    em.stickyBit = false ↔ w = em.mantissa + half em.roundBit

namespace Truncates

variable {em : ExtendedMantissa}
variable {w : ℚ}

theorem shiftRightOne
    (hTruncates : Truncates em w) :
    Truncates em.shiftRightOne (w / 2) := by
  rcases hTruncates with ⟨hFloor, hNext, hExact⟩
  rcases em with ⟨m, roundBit, stickyBit⟩
  dsimp only at hFloor hNext hExact
  have hNonneg := half_nonneg roundBit
  have hLe := half_le roundBit
  have hSplit :
      (m : ℚ) = 2 * ((m / 2 : Nat) + half (m % 2 != 0)) := by
    have hWhole : (m : ℚ) = 2 * (m / 2 : Nat) + (m % 2 : Nat) := by
      exact_mod_cast (Nat.div_add_mod m 2).symm
    rcases Nat.mod_two_eq_zero_or_one m with hBit | hBit <;>
      simp only [hBit] at hWhole ⊢ <;>
      simp [hWhole, half, mul_add]
  constructor <;> dsimp only [ExtendedMantissa.shiftRightOne]
  · linarith
  · linarith
  · rw [Bool.or_eq_false_iff]
    constructor
    · rintro ⟨rfl, hSticky⟩
      have hSame := hExact.mp hSticky
      rw [half_false] at hSame
      linarith
    · intro hSame
      have hRound : roundBit = false := by
        cases roundBit with
        | false => rfl
        | true =>
            rw [half_true] at hFloor
            linarith
      refine ⟨hRound, hExact.mpr ?_⟩
      rw [hRound, half_false]
      linarith

theorem shiftRight
    (hTruncates : Truncates em w)
    (k : Nat) :
    Truncates (em >>> k) (w / 2 ^ k) := by
  induction k with
  | zero => simpa [HShiftRight.hShiftRight, Nat.repeat] using hTruncates
  | succ k ih =>
      rw [shiftRight_succ, pow_succ, ← div_div]
      exact ih.shiftRightOne

/-
  Of the whole numbers, the rounded one is nearest, and even
  if two are as near.
-/
theorem roundedMantissa_eq
    (hTruncates : Truncates em w)
    {n : Nat}
    (hLow : (n : ℚ) - 1 / 2 ≤ w)
    (hHigh : w ≤ n + 1 / 2)
    (hOdd : n % 2 = 1 → n - 1 / 2 < w ∧ w < n + 1 / 2) :
    em.roundedMantissa = n := by
  rcases hTruncates with ⟨hFloor, hNext, hExact⟩
  rcases em with ⟨m, roundBit, stickyBit⟩
  dsimp only at hFloor hNext hExact
  have hBelow : m < n + 1 := by
    have hLess : (m : ℚ) < n + 1 := by
      linarith [half_nonneg roundBit]
    exact_mod_cast hLess
  have hAbove : n < m + 2 := by
    have hLess : (n : ℚ) < m + 2 := by
      linarith [half_le roundBit]
    exact_mod_cast hLess
  have hNear : n = m ∨ n = m + 1 := by omega
  cases roundBit <;> cases stickyBit <;>
    simp only [half_false, half_true, true_iff, reduceCtorEq,
      false_iff, add_zero] at hFloor hNext hExact <;>
    simp only [ExtendedMantissa.roundedMantissa,
      ExtendedMantissa.accuracy, Accuracy.roundToNearestEven] <;>
    rcases hNear with rfl | rfl <;>
    push_cast at hLow hHigh hOdd
  · rfl
  · linarith
  · rfl
  · linarith
  · -- two are as near, and the lower one is even
    have hEven : n % 2 = 0 := by
      by_contra hOther
      have hLess := (hOdd (by omega)).2
      linarith
    rw [hEven, Nat.add_zero]
  · have hEven : m % 2 = 1 := by
      by_contra hOther
      have hLess := (hOdd (by omega)).1
      linarith
    rw [hEven]
  · exact absurd (le_antisymm hHigh hFloor) hExact
  · rfl

theorem exact
    (m : Nat) :
    Truncates (.ofMantissaAndAccuracy m .exact) m := by
  constructor <;>
    simp [ExtendedMantissa.ofMantissaAndAccuracy]

theorem quotient
    (n : Nat)
    {d : Nat}
    (hPositive : 0 < d) :
    Truncates
      (.ofMantissaAndAccuracy (n / d)
        (accuracyOfFraction (n % d) d))
      (n / d) := by
  have hRest := Nat.mod_lt n hPositive
  have hPositive : (0 : ℚ) < d := by exact_mod_cast hPositive
  have hSplit : (n : ℚ) / d = (n / d : Nat) + (n % d : Nat) / d := by
    have hWhole : (n : ℚ) = d * (n / d : Nat) + (n % d : Nat) := by
      exact_mod_cast (Nat.div_add_mod n d).symm
    field_simp
    linarith
  rw [hSplit]
  generalize n / d = q
  generalize n % d = r at hRest
  have hRest : (r : ℚ) / d < 1 := by
    rw [div_lt_one hPositive]
    exact_mod_cast hRest
  have hNonneg : (0 : ℚ) ≤ r / d := by positivity
  rw [accuracyOfFraction]
  split_ifs with hZero
  · subst hZero
    simpa using exact q
  · have hSome : (0 : ℚ) < r / d := by
      have hSome : (0 : ℚ) < r := by
        exact_mod_cast Nat.pos_of_ne_zero hZero
      positivity
    rcases hOrder : compare (2 * r) d with _ | _ | _
    · have hLess : (r : ℚ) / d < 1 / 2 := by
        rw [div_lt_div_iff₀ hPositive (by norm_num), one_mul,
          mul_comm]
        exact_mod_cast Nat.compare_eq_lt.mp hOrder
      generalize (r : ℚ) / d = rest at hLess hSome ⊢
      refine ⟨?_, ?_, ?_⟩ <;>
        simp [ExtendedMantissa.ofMantissaAndAccuracy]
      · exact hSome.le
      · linarith
      · exact hSome.ne'
    · have hSame : (r : ℚ) / d = 1 / 2 := by
        rw [div_eq_div_iff hPositive.ne' (by norm_num), one_mul,
          mul_comm]
        exact_mod_cast Nat.compare_eq_eq.mp hOrder
      rw [hSame]
      constructor <;>
        simp [ExtendedMantissa.ofMantissaAndAccuracy]
    · have hMore : (1 : ℚ) / 2 < r / d := by
        rw [div_lt_div_iff₀ (by norm_num) hPositive, one_mul,
          mul_comm _ (2 : ℚ)]
        exact_mod_cast Nat.compare_eq_gt.mp hOrder
      generalize (r : ℚ) / d = rest at hMore hRest ⊢
      refine ⟨?_, ?_, ?_⟩ <;>
        simp only [ExtendedMantissa.ofMantissaAndAccuracy,
          half_true, reduceCtorEq, false_iff]
      · linarith
      · linarith
      · intro hSame
        linarith

end Truncates

end Double

end Devirt

------------------------------------------------------------
-- Words
------------------------------------------------------------

namespace Devirt

namespace Decimal

open Double Float.Model Float.Model.UnpackedFloat

theorem toNat_packComponents
    (e : BitVec 11)
    (m : BitVec 52) :
    (packComponents Format.binary64 .positive e m).toNat =
      e.toNat * 2 ^ 52 + m.toNat := by
  change ((0#1 ++ e) ++ m).toNat = _
  rw [BitVec.toNat_append, BitVec.toNat_append,
    ← Nat.shiftLeft_add_eq_or_of_lt m.isLt,
    ← Nat.shiftLeft_add_eq_or_of_lt e.isLt]
  simp [Nat.shiftLeft_eq]

/- The word of a double that is not negative. -/
theorem toNat_pack
    {m : Nat}
    {e : Int}
    (hPositive : 0 < m)
    (hShort : m < 2 ^ 53)
    (hLow : -1074 ≤ e)
    (hHigh : e ≤ 971)
    (hWhole : -1074 < e → 2 ^ 52 ≤ m) :
    (UnpackedFloat.pack Format.binary64
        (.finite .positive m e hPositive)).toNat =
      (e + 1074).toNat * 2 ^ 52 + m := by
  have hBiased : ¬ 2 ^ 11 ≤ (e + 1023 + 52).toNat + 1 := by
    omega
  have hLog : m.log2 + 1 = 53 ↔ 2 ^ 52 ≤ m := by
    rw [Nat.succ_inj, Nat.log2_eq_iff hPositive.ne']
    exact and_iff_left hShort
  unfold UnpackedFloat.pack
  dsimp only
  split_ifs with hLarge hNormal
  · exact absurd hLarge hBiased
  · have hLeast := hLog.mp hNormal
    rw [toNat_packComponents, BitVec.toNat_ofNat,
      BitVec.toNat_ofNat]
    change
      (e + 1023 + 52).toNat % 2 ^ 11 * 2 ^ 52 + m % 2 ^ 52 = _
    omega
  · have hLess : m < 2 ^ 52 := by
      by_contra hLeast
      exact hNormal (hLog.mpr (Nat.le_of_not_lt hLeast))
    rw [toNat_packComponents, BitVec.toNat_ofNat]
    change 0 * 2 ^ 52 + m % 2 ^ 52 = _
    omega

/- The exact value of a word that is not negative. -/
theorem toNat_ofBits
    {bits : UInt64}
    (hSign : bits.toNat < 2 ^ 63) :
    bits.toNat =
      ((Binary.ofBits bits).exponent + 1074).toNat * 2 ^ 52 +
        (Binary.ofBits bits).mantissa := by
  simp only [Binary.ofBits, Nat.pow_eq, Int.ofNat_eq_natCast]
  split_ifs with hZero <;> dsimp only <;> omega

/- A finite double is packed from its exact value. -/
theorem pack_ofBits
    {x : Float}
    (hSign : x.toBits.toNat < 2 ^ 63)
    (hFits : (Binary.ofBits x.toBits).Fits)
    (hPositive : 0 < (Binary.ofBits x.toBits).mantissa) :
    Float.ofModel
        (pack
          (.finite .positive (Binary.ofBits x.toBits).mantissa
            (Binary.ofBits x.toBits).exponent hPositive)) =
      x := by
  have hWord :=
    (toNat_pack hPositive hFits.short hFits.least hFits.most
      hFits.whole).trans (toNat_ofBits hSign).symm
  rcases x with ⟨⟨bits, hValid⟩⟩
  congr 1
  unfold Float.Model.pack
  congr 1
  exact UInt64.toNat_inj.mp hWord

end Decimal

end Devirt

------------------------------------------------------------
-- Nearest Doubles
------------------------------------------------------------

namespace Devirt

namespace Double

open Float.Model Float.Model.UnpackedFloat

section Truncated

variable {m : Nat}
variable {e : Int}
variable {accuracy : Accuracy}
variable {w : ℚ}

/- A number that is truncated to a mantissa is next to it. -/
theorem Truncates.bounds
    (hTruncates : Truncates (.ofMantissaAndAccuracy m accuracy) w) :
    m ≤ w ∧ w < m + 1 := by
  rcases hTruncates with ⟨hFloor, hNext, -⟩
  rw [ofMantissaAndAccuracy_mantissa] at hFloor hNext
  have hNonneg :=
    half_nonneg (ExtendedMantissa.ofMantissaAndAccuracy m accuracy).roundBit
  have hLe :=
    half_le (ExtendedMantissa.ofMantissaAndAccuracy m accuracy).roundBit
  constructor <;> linarith

theorem Truncates.lt_power
    (hTruncates : Truncates (.ofMantissaAndAccuracy m accuracy) w) :
    w * 2 ^ e < 2 ^ (m.log2 + 1 + e : ℤ) := by
  have hNext : (m : ℚ) + 1 ≤ 2 ^ (m.log2 + 1) := by
    exact_mod_cast Nat.lt_log2_self (n := m)
  rw [zpow_add₀ (by norm_num)]
  gcongr
  exact_mod_cast hTruncates.bounds.2.trans_le hNext

theorem Truncates.power_le
    (hTruncates : Truncates (.ofMantissaAndAccuracy m accuracy) w)
    (hPositive : 0 < m) :
    2 ^ (m.log2 + e : ℤ) ≤ w * 2 ^ e := by
  have hFirst : (2 : ℚ) ^ m.log2 ≤ m := by
    exact_mod_cast Nat.log2_self_le hPositive.ne'
  rw [zpow_add₀ (by norm_num)]
  gcongr
  exact_mod_cast hFirst.trans hTruncates.bounds.1

/-
  What is kept of a mantissa is the nearest multiple of the
  power that is left.
-/
theorem Truncates.kept_eq
    (hTruncates : Truncates (.ofMantissaAndAccuracy m accuracy) w)
    {n : Nat}
    {t : Int}
    (hPower : e + dropped m e = t)
    (hLow : ((n : ℚ) - 1 / 2) * 2 ^ t ≤ w * 2 ^ e)
    (hHigh : w * 2 ^ e ≤ (n + 1 / 2) * 2 ^ t)
    (hOdd :
      n % 2 = 1 →
        ((n : ℚ) - 1 / 2) * 2 ^ t < w * 2 ^ e ∧
          w * 2 ^ e < (n + 1 / 2) * 2 ^ t) :
    kept m e accuracy = n := by
  have hPositive : (0 : ℚ) < 2 ^ t := zpow_pos (by norm_num) t
  have hValue : w * 2 ^ e = w / 2 ^ dropped m e * 2 ^ t := by
    rw [← hPower, zpow_add₀ (by norm_num), zpow_natCast]
    field_simp
  rw [hValue] at hLow hHigh hOdd
  refine
    (hTruncates.shiftRight (dropped m e)).roundedMantissa_eq
      (le_of_mul_le_mul_right hLow hPositive)
      (le_of_mul_le_mul_right hHigh hPositive) ?_
  intro hOther
  exact
    ⟨lt_of_mul_lt_mul_right (hOdd hOther).1 hPositive.le,
      lt_of_mul_lt_mul_right (hOdd hOther).2 hPositive.le⟩

end Truncated

end Double

namespace Decimal

open Double Float.Model Float.Model.UnpackedFloat

/- How far the interval of a double reaches below it. -/
def Binary.reach (b : Binary) : ℚ :=
  if b.narrowBelow then 1 / 4 else 1 / 2

/-
  The numbers that are rounded to a double, those at the ends
  of its interval only if its mantissa is even.
-/
structure Binary.Covers (b : Binary) (v : ℚ) : Prop where
  low_le : (b.mantissa - b.reach) * 2 ^ b.exponent ≤ v
  le_high : v ≤ (b.mantissa + 1 / 2) * 2 ^ b.exponent
  odd :
    b.mantissa % 2 = 1 →
      (b.mantissa - b.reach) * 2 ^ b.exponent < v ∧
        v < (b.mantissa + 1 / 2) * 2 ^ b.exponent

/- The exact value of a positive double. -/
structure Binary.Proper (b : Binary) : Prop extends b.Fits where
  positive : 0 < b.mantissa
  narrow_of_power :
    b.mantissa = 2 ^ 52 → -1074 < b.exponent → b.narrowBelow = true

section Covers

variable {b : Binary}
variable {v : ℚ}

theorem Binary.reach_le (b : Binary) : b.reach ≤ 1 / 2 := by
  unfold Binary.reach
  split_ifs <;> norm_num

theorem Binary.Covers.lt_power
    (hProper : b.Proper)
    (hCovers : b.Covers v) :
    v < 2 ^ (53 + b.exponent) := by
  have hShort : (b.mantissa : ℚ) + 1 ≤ 2 ^ (53 : ℤ) := by
    exact_mod_cast hProper.short
  refine hCovers.le_high.trans_lt ?_
  rw [zpow_add₀ (by norm_num)]
  gcongr
  linarith

/- Only the least mantissa covers something below its power. -/
theorem Binary.Covers.power_le
    (hProper : b.Proper)
    (hCovers : b.Covers v)
    (hExponent : -1074 < b.exponent)
    (hMantissa : b.mantissa ≠ 2 ^ 52) :
    2 ^ (52 + b.exponent) ≤ v := by
  have hWhole : (2 : ℚ) ^ (52 : ℤ) + 1 ≤ b.mantissa := by
    have hWhole := hProper.whole hExponent
    have hMore : 2 ^ 52 + 1 ≤ b.mantissa := by omega
    exact_mod_cast hMore
  refine le_trans ?_ hCovers.low_le
  rw [zpow_add₀ (by norm_num)]
  gcongr
  linarith [b.reach_le]

section Rounding

variable {m : Nat}
variable {e : Int}
variable {accuracy : Accuracy}
variable {w : ℚ}

theorem add_dropped
    (hRoom : 52 ≤ m.log2 ∨ e ≤ -1074) :
    e + dropped m e = max ((m.log2 : Int) + e - 52) (-1074) := by
  unfold dropped
  omega

/-
  The power that is left is that of the double, or the one
  before for what lies below the least mantissa.
-/
theorem Binary.Covers.power_eq
    (hProper : b.Proper)
    (hTruncates : Truncates (.ofMantissaAndAccuracy m accuracy) w)
    (hRoom : 52 ≤ m.log2 ∨ e ≤ -1074)
    (hCovers : b.Covers (w * 2 ^ e)) :
    e + dropped m e = b.exponent ∨
      e + dropped m e = b.exponent - 1 ∧
        b.mantissa = 2 ^ 52 ∧ b.narrowBelow = true ∧
          w * 2 ^ e < 2 ^ (52 + b.exponent) := by
  have hBase : (1 : ℚ) < 2 := by norm_num
  have hLeast := hProper.least
  have hAbove := hTruncates.lt_power (e := e)
  have hTop := hCovers.lt_power hProper
  have hMost : e + dropped m e ≤ b.exponent := by
    rw [add_dropped hRoom]
    rcases Nat.eq_zero_or_pos m with rfl | hPositive
    · simp only [Nat.log2_zero] at hRoom ⊢
      omega
    · have hBelow := hTruncates.power_le (e := e) hPositive
      have hLess :=
        (zpow_lt_zpow_iff_right₀ hBase).mp (hBelow.trans_lt hTop)
      omega
  by_cases hLow : 2 ^ (52 + b.exponent) ≤ w * 2 ^ e
  · have hLess :=
      (zpow_lt_zpow_iff_right₀ hBase).mp (hLow.trans_lt hAbove)
    left
    rw [add_dropped hRoom] at hMost ⊢
    omega
  · rcases hLeast.eq_or_lt with hFirst | hLater
    · left
      rw [add_dropped hRoom] at hMost ⊢
      omega
    · have hMantissa : b.mantissa = 2 ^ 52 := by
        by_contra hOther
        exact hLow (hCovers.power_le hProper hLater hOther)
      have hNarrow := hProper.narrow_of_power hMantissa hLater
      have hBelow : 2 ^ (51 + b.exponent) ≤ w * 2 ^ e := by
        refine le_trans ?_ hCovers.low_le
        rw [hMantissa, Binary.reach, if_pos hNarrow,
          zpow_add₀ (by norm_num)]
        gcongr
        norm_num
      have hLess :=
        (zpow_lt_zpow_iff_right₀ hBase).mp (hBelow.trans_lt hAbove)
      have hPositive : 0 < m := by
        by_contra hZero
        have hZero : m = 0 := by omega
        simp only [hZero, Nat.log2_zero] at hRoom hLess
        omega
      have hUnder :=
        (zpow_lt_zpow_iff_right₀ hBase).mp
          ((hTruncates.power_le (e := e) hPositive).trans_lt
            (lt_of_not_ge hLow))
      right
      refine ⟨?_, hMantissa, hNarrow, lt_of_not_ge hLow⟩
      rw [add_dropped hRoom]
      omega

/-
  A number is rounded to the double that covers it.
-/
theorem round_nearest
    (hProper : b.Proper)
    (hTruncates : Truncates (.ofMantissaAndAccuracy m accuracy) w)
    (hRoom : 52 ≤ m.log2 ∨ e ≤ -1074)
    (hCovers : b.Covers (w * 2 ^ e)) :
    roundWithAccuracy Format.binary64 .positive m e accuracy =
      .finite .positive b.mantissa b.exponent hProper.positive := by
  have hReach := b.reach_le
  have hUnit : (0 : ℚ) < 2 ^ b.exponent := zpow_pos (by norm_num) _
  rcases hCovers.power_eq hProper hTruncates hRoom with
    hPower | ⟨hPower, hMantissa, hNarrow, hUnder⟩
  · have hKept : kept m e accuracy = b.mantissa := by
      refine
        hTruncates.kept_eq hPower (le_trans ?_ hCovers.low_le)
          hCovers.le_high ?_
      · gcongr
      · intro hOdd
        refine ⟨lt_of_le_of_lt ?_ (hCovers.odd hOdd).1,
          (hCovers.odd hOdd).2⟩
        gcongr
    simp only [round_eq, hKept, hPower,
      dif_neg hProper.positive.ne', if_pos hProper.short]
  · have hHalf : (2 : ℚ) ^ b.exponent = 2 * 2 ^ (b.exponent - 1) := by
      rw [← zpow_one_add₀ (by norm_num)]
      congr 1
      omega
    have hKept : kept m e accuracy = 2 ^ 53 := by
      refine hTruncates.kept_eq hPower ?_ ?_ ?_
      · have hLow := hCovers.low_le
        rw [hMantissa, Binary.reach, if_pos hNarrow, hHalf] at hLow
        refine le_trans (le_of_eq ?_) hLow
        push_cast
        ring
      · refine hUnder.le.trans ?_
        rw [zpow_add₀ (by norm_num), hHalf, ← mul_assoc]
        gcongr
        norm_num
      · intro hOdd
        exact absurd hOdd (by decide)
    simp only [round_eq, hKept]
    rw [dif_neg (by decide), if_neg (by decide),
      UnpackedFloat.finite.injEq]
    exact ⟨rfl, hMantissa.symm, by omega⟩

end Rounding

end Covers

end Decimal

end Devirt

------------------------------------------------------------
-- Operations
------------------------------------------------------------

namespace Devirt

namespace Decimal

open Double Float.Model Float.Model.UnpackedFloat

section Operations

variable {b : Binary}
variable {m n : Nat}
variable {e f : Int}

theorem mul_nearest
    (hProper : b.Proper)
    (hM : 0 < m)
    (hN : 0 < n)
    (hRoom : 52 ≤ (m * n).log2)
    (hCovers : b.Covers (m * 2 ^ e * (n * 2 ^ f))) :
    UnpackedFloat.mul Format.binary64 (.finite .positive m e hM)
        (.finite .positive n f hN) =
      .finite .positive b.mantissa b.exponent hProper.positive := by
  rw [← value_mul] at hCovers
  exact
    round_nearest hProper (Truncates.exact (m * n)) (Or.inl hRoom)
      hCovers

/- The quotient has bits enough unless it is tiny. -/
theorem div_nearest
    (hProper : b.Proper)
    (hM : 0 < m)
    (hN : 0 < n)
    (hCovers : b.Covers (m * 2 ^ e / (n * 2 ^ f))) :
    UnpackedFloat.div Format.binary64 (.finite .positive m e hM)
        (.finite .positive n f hN) =
      .finite .positive b.mantissa b.exponent hProper.positive := by
  have hTarget :
      Format.binary64.targetExponent
          (totalExponent m e - totalExponent n f) =
        max ((m.log2 : Int) + e - (n.log2 + f) - 53) (-1074) := by
    simp only [Format.targetExponent, totalExponent,
      Format.mantissaBits, Format.minExponent]
    norm_num
    omega
  simp only [UnpackedFloat.div, divCore, hTarget]
  generalize hLeast :
    min (e - f)
      (max ((m.log2 : Int) + e - (n.log2 + f) - 53) (-1074)) =
        target
  generalize hShift : (e - f - target).toNat = shift
  rw [Nat.shiftLeft_eq]
  refine
    round_nearest hProper (Truncates.quotient (m * 2 ^ shift) hN)
      ?_ ?_
  · by_cases hTiny : target ≤ -1074
    · exact Or.inr hTiny
    · have hBits : 2 ^ 52 ≤ m * 2 ^ shift / n := by
        rw [Nat.le_div_iff_mul_le hN]
        calc
          2 ^ 52 * n ≤ 2 ^ 52 * 2 ^ (n.log2 + 1) := by
            gcongr
            exact Nat.lt_log2_self.le
          _ ≤ 2 ^ m.log2 * 2 ^ shift := by
            rw [← Nat.pow_add, ← Nat.pow_add]
            apply Nat.pow_le_pow_right (by decide)
            omega
          _ ≤ m * 2 ^ shift := by
            gcongr
            exact Nat.log2_self_le hM.ne'
      exact Or.inl ((Nat.le_log2 (by omega)).mpr hBits)
  · convert hCovers using 1
    have hPower : (2 : ℚ) ^ shift * 2 ^ target = 2 ^ e / 2 ^ f := by
      rw [← zpow_natCast, ← zpow_add₀ (by norm_num),
        ← zpow_sub₀ (by norm_num)]
      congr 1
      omega
    push_cast
    rw [mul_div_mul_comm, ← hPower]
    ring

end Operations

section Scientific

variable {x : Float}
variable {s n : Nat}

/- Whether a double is finite and above zero. -/
def isPositive (x : Float) : Bool :=
  match x.toModel.unpack with
  | .finite .positive _ _ _ => true
  | _ => false

/- The first powers of ten are positive. -/
theorem powers_positive :
    ∀ i (_ : i < Float.exactlyRepresentablePowersOfTen.size),
      isPositive Float.exactlyRepresentablePowersOfTen[i] =
        true := by
  decide +kernel

/- A power of ten that is a double. -/
theorem unpack_power
    (i : Fin Float.exactlyRepresentablePowersOfTen.size) :
    ∃ m e, ∃ hMantissa : 0 < m,
      Float.exactlyRepresentablePowersOfTen[i].toModel.unpack =
          .finite .positive m e hMantissa ∧
        (m : ℚ) * 2 ^ e = 10 ^ (i : Nat) ∧ 2 ^ 52 ≤ m := by
  rcases isNormal_of_isPower (exactPowers i) with
    ⟨m, e, hNormal, hValue, -, -⟩
  rcases hNormal.unpack_eq with ⟨sign, hMantissa, hUnpack⟩
  have hSign :
      isPositive Float.exactlyRepresentablePowersOfTen[i] =
        true :=
    powers_positive i i.isLt
  rw [isPositive, hUnpack] at hSign
  cases sign with
  | negative => cases hSign
  | positive =>
      exact ⟨m, e, hMantissa, hUnpack, hValue, hNormal.least⟩

/- A whole number that is a double. -/
theorem unpack_small
    (hPositive : 0 < s)
    (hSmall : s < 2 ^ 53) :
    ∃ m e, ∃ hMantissa : 0 < m,
      s.toUInt64.toFloat.toModel.unpack =
          .finite .positive m e hMantissa ∧
        (m : ℚ) * 2 ^ e = s ∧ 2 ^ 52 ≤ m := by
  rcases unpack_toFloat hPositive hSmall with
    ⟨hMantissa, hUnpack, hLeast, -⟩
  refine ⟨_, _, hMantissa, hUnpack, ?_, hLeast⟩
  rw [zpow_neg, zpow_natCast]
  push_cast
  field_simp

/- A numeral is read as the double that covers it. -/
theorem ofScientific_up
    (hSign : x.toBits.toNat < 2 ^ 63)
    (hProper : (Binary.ofBits x.toBits).Proper)
    (hPositive : 0 < s)
    (hExponent : n ≤ 308)
    (hCovers : (Binary.ofBits x.toBits).Covers (s * 10 ^ n)) :
    Float.ofScientific s false n = x := by
  have hPacked :=
    pack_ofBits hSign hProper.toFits hProper.positive
  by_cases hFast : s < 2 ^ 53 ∧ n ≤ 22
  · rcases ofScientific_fast hFast with ⟨i, rfl, hProduct⟩
    rcases unpack_small hPositive hFast.1 with
      ⟨m, e, hM, hLeft, hLeftValue, hLeftLeast⟩
    rcases unpack_power i with
      ⟨k, f, hK, hRight, hRightValue, hRightLeast⟩
    have hModel :
        s.toUInt64.toFloat *
            Float.exactlyRepresentablePowersOfTen[i] =
          Float.ofModel
            (pack
              (UnpackedFloat.mul Format.binary64
                s.toUInt64.toFloat.toModel.unpack
                Float.exactlyRepresentablePowersOfTen[i].toModel.unpack)) :=
      rfl
    have hRoom : 52 ≤ (m * k).log2 := by
      rw [Nat.le_log2 (Nat.mul_pos hM hK).ne']
      exact hLeftLeast.trans (Nat.le_mul_of_pos_right m hK)
    rw [← hLeftValue, ← hRightValue] at hCovers
    rw [hProduct, hModel, hLeft, hRight,
      mul_nearest hProper hM hK hRoom hCovers, hPacked]
  · have hValue :
        ((s * 2 ^ 53 * 10 ^ n : Nat) : ℚ) * 2 ^ (-53 : ℤ) =
          s * 10 ^ n := by
      rw [show (-53 : ℤ) = -((53 : Nat) : ℤ) from rfl, zpow_neg,
        zpow_natCast]
      push_cast
      field_simp
      norm_num
    have hRoom : 52 ≤ (s * 2 ^ 53 * 10 ^ n).log2 := by
      rw [Nat.le_log2 (by positivity)]
      calc
        2 ^ 52 ≤ 1 * 2 ^ 53 * 1 := by norm_num
        _ ≤ s * 2 ^ 53 * 10 ^ n := by
          gcongr
          · exact hPositive
          · exact Nat.one_le_pow _ _ (by decide)
    rw [← hValue] at hCovers
    rw [ofScientific_slow hPositive hFast hExponent,
      round_nearest hProper (Truncates.exact _) (Or.inl hRoom)
        hCovers, hPacked]

theorem ofScientific_down
    (hSign : x.toBits.toNat < 2 ^ 63)
    (hProper : (Binary.ofBits x.toBits).Proper)
    (hPositive : 0 < s)
    (hDown : 0 < n)
    (hExponent : n ≤ 2 ^ 11 + s.log2)
    (hCovers : (Binary.ofBits x.toBits).Covers (s / 10 ^ n)) :
    Float.ofScientific s true n = x := by
  have hPacked :=
    pack_ofBits hSign hProper.toFits hProper.positive
  rw [Float.ofScientific]
  by_cases hFast : s < 2 ^ 53 ∧ n ≤ 22
  · rw [dif_pos hFast]
    let i : Fin Float.exactlyRepresentablePowersOfTen.size :=
      ⟨n, Nat.lt_succ_of_le hFast.2⟩
    rcases unpack_small hPositive hFast.1 with
      ⟨m, e, hM, hLeft, hLeftValue, hLeftLeast⟩
    rcases unpack_power i with
      ⟨k, f, hK, hRight, hRightValue, hRightLeast⟩
    change
      Float.ofModel
          (pack
            (UnpackedFloat.div Format.binary64
              s.toUInt64.toFloat.toModel.unpack
              Float.exactlyRepresentablePowersOfTen[i].toModel.unpack)) =
        x
    rw [← hLeftValue, ← hRightValue] at hCovers
    rw [hLeft, hRight, div_nearest hProper hM hK hCovers, hPacked]
  · have hNegative : Int.negOfNat n = -(n : Int) := by
      rw [Int.negOfNat_eq, Int.ofNat_eq_natCast]
    have hNotLarge : ¬ -(n : Int) > 2 ^ 11 := by omega
    have hNotSmall : ¬ -(n : Int) < -((2 ^ 11 : Int) + s.log2) := by
      omega
    have hNotUp : ¬ 0 ≤ -(n : Int) := by omega
    have hValue :
        (s : ℚ) / 10 ^ n =
          s * 2 ^ (0 : ℤ) / ((10 ^ n : Nat) * 2 ^ (0 : ℤ)) := by
      push_cast
      simp
    rw [hValue] at hCovers
    rw [dif_neg hFast]
    change
      Float.ofModel
          (pack
            (UnpackedFloat.ofScientific Format.binary64 s
              (Int.negOfNat n))) =
        x
    unfold UnpackedFloat.ofScientific
    rw [hNegative, dif_neg hPositive.ne', if_neg hNotLarge,
      if_neg hNotSmall, if_neg hNotUp]
    simp only [neg_neg, Int.toNat_natCast]
    rw [div_nearest hProper hPositive _ hCovers, hPacked]

end Scientific

end Decimal

end Devirt

------------------------------------------------------------
-- Numerals
------------------------------------------------------------

namespace Devirt

namespace Decimal

open Double Float.Model Float.Model.UnpackedFloat

section Scaled

variable {x : Float}
variable {b : Binary}
variable {s : Nat}
variable {e : Int}

theorem Binary.Covers.lt_of_most
    {v : ℚ}
    (hProper : b.Proper)
    (hCovers : b.Covers v) :
    v < 10 ^ (309 : ℤ) := by
  have hMost := hProper.most
  calc
    v < 2 ^ (53 + b.exponent) := hCovers.lt_power hProper
    _ ≤ 2 ^ (1024 : ℤ) :=
      zpow_le_zpow_right₀ (by norm_num) (by omega)
    _ ≤ 10 ^ (309 : ℤ) := by
      have hWhole : 2 ^ 1024 ≤ 10 ^ 309 := by decide +kernel
      exact_mod_cast hWhole

theorem Binary.Covers.lt_of_least
    {v : ℚ}
    (hProper : b.Proper)
    (hCovers : b.Covers v) :
    10 ^ (-324 : ℤ) < v := by
  have hLeast := hProper.least
  have hPositive : (1 : ℚ) ≤ b.mantissa := by
    exact_mod_cast hProper.positive
  calc
    (10 : ℚ) ^ (-324 : ℤ) < 2 ^ (-1 + -1074 : ℤ) := by
      have hWhole : 2 ^ 1075 < 10 ^ 324 := by decide +kernel
      rw [show (-1 + -1074 : ℤ) = -(1075 : ℕ) from rfl,
        show (-324 : ℤ) = -(324 : ℕ) from rfl, zpow_neg, zpow_neg,
        zpow_natCast, zpow_natCast]
      apply inv_strictAnti₀ (by positivity)
      exact_mod_cast hWhole
    _ ≤ 2 ^ (-1 + b.exponent) :=
      zpow_le_zpow_right₀ (by norm_num) (by omega)
    _ ≤ (b.mantissa - b.reach) * 2 ^ b.exponent := by
      rw [zpow_add₀ (by norm_num)]
      gcongr
      rw [zpow_neg_one]
      linarith [b.reach_le]
    _ ≤ v := hCovers.low_le

/- The digits of a number tell how large it is. -/
theorem lt_power_digits
    (s : Nat) :
    s < 10 ^ (Nat.toDigits 10 s).length :=
  (Nat.length_toDigits_le_iff (by decide)
    Nat.length_toDigits_pos).mp (Nat.le_refl _)

theorem power_digits_le
    (hPositive : 0 < s) :
    10 ^ ((Nat.toDigits 10 s).length - 1) ≤ s := by
  have hSome : 0 < (Nat.toDigits 10 s).length :=
    Nat.length_toDigits_pos
  rcases Nat.eq_zero_or_pos ((Nat.toDigits 10 s).length - 1) with
    hOne | hMore
  · rw [hOne]
    exact hPositive
  · by_contra hLess
    have hFewer :=
      (Nat.length_toDigits_le_iff (by decide) hMore).mpr
        (Nat.lt_of_not_le hLess)
    omega

/- The place of the point of a number that is covered. -/
theorem Binary.Covers.point_bounds
    (hProper : b.Proper)
    (hPositive : 0 < s)
    (hCovers : b.Covers (s * 10 ^ e)) :
    -324 < ((Nat.toDigits 10 s).length : Int) + e ∧
      ((Nat.toDigits 10 s).length : Int) + e ≤ 309 := by
  have hBase : (1 : ℚ) < 10 := by norm_num
  have hSome : 0 < (Nat.toDigits 10 s).length :=
    Nat.length_toDigits_pos
  have hAbove : (s : ℚ) < 10 ^ (Nat.toDigits 10 s).length := by
    exact_mod_cast lt_power_digits s
  have hBelow : (10 : ℚ) ^ ((Nat.toDigits 10 s).length - 1) ≤ s := by
    exact_mod_cast power_digits_le hPositive
  generalize (Nat.toDigits 10 s).length = count at *
  constructor
  · refine
      (zpow_lt_zpow_iff_right₀ hBase).mp
        ((hCovers.lt_of_least hProper).trans ?_)
    rw [zpow_add₀ (by norm_num), zpow_natCast]
    gcongr
  · have hLess : (10 : ℚ) ^ ((count - 1 : Nat) + e : ℤ) <
        10 ^ (309 : ℤ) := by
      refine lt_of_le_of_lt ?_ (hCovers.lt_of_most hProper)
      rw [zpow_add₀ (by norm_num), zpow_natCast]
      gcongr
    have hExponents := (zpow_lt_zpow_iff_right₀ hBase).mp hLess
    omega

/- A numeral is read as the double that covers it. -/
theorem ofScaled_nearest
    (hSign : x.toBits.toNat < 2 ^ 63)
    (hProper : (Binary.ofBits x.toBits).Proper)
    (hPositive : 0 < s)
    (hCovers : (Binary.ofBits x.toBits).Covers (s * 10 ^ e)) :
    ofScaled s e = x := by
  rcases hCovers.point_bounds hProper hPositive with
    ⟨hLeast, hMost⟩
  have hSome : 0 < (Nat.toDigits 10 s).length :=
    Nat.length_toDigits_pos
  unfold ofScaled
  dsimp only
  rw [if_neg hPositive.ne', if_neg (by omega),
    if_neg (by omega)]
  split_ifs with hUp
  · lift e to Nat using hUp
    rw [zpow_natCast] at hCovers
    rw [Int.toNat_natCast]
    exact
      ofScientific_up hSign hProper hPositive (by omega) hCovers
  · obtain ⟨n, rfl⟩ : ∃ n : Nat, e = -n :=
      ⟨(-e).toNat, by omega⟩
    have hBits : (Nat.toDigits 10 s).length ≤ s.log2 + 1 := by
      have hTwo : 2 ^ ((Nat.toDigits 10 s).length - 1) ≤ s :=
        (Nat.pow_le_pow_left (by decide) _).trans
          (power_digits_le hPositive)
      have hLog := (Nat.le_log2 hPositive.ne').mpr hTwo
      omega
    rw [zpow_neg, zpow_natCast, ← div_eq_mul_inv] at hCovers
    rw [neg_neg, Int.toNat_natCast]
    exact
      ofScientific_down hSign hProper hPositive (by omega)
        (by omega) hCovers

end Scaled

end Decimal

end Devirt

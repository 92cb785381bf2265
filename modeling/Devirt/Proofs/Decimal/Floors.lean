import Devirt.Decimal.Rounding
import Devirt.Proofs.Decimal.Describing
import Devirt.Proofs.Decimal.Naturals
import Devirt.Proofs.Decimal.ReadBack

/-
  Doubles that are no less than a number.

  Rounding may make a number smaller, but a natural number of
  no more than fifty-three bits below it stays below it.  So
  sums and products of doubles are no less than those of the
  numbers below them, as far as these are so small.

  Main declarations:
    * `Double.Reaches`, `Double.Reaches.compare_eq`
    * `Double.reaches_round`
    * `Double.Reaches.add`, `Double.Reaches.mul`
    * `Double.Counts.reaches`, `Decimal.reaches_truncate`
-/

------------------------------------------------------------
-- Unpacked Doubles
------------------------------------------------------------

namespace Devirt

namespace Double

open Float.Model Float.Model.UnpackedFloat

/- A double is no less than a number, and no less than one. -/
inductive Reaches (n : Nat) : UnpackedFloat → Prop where
  | zero
      (sign : Sign)
      (hZero : n = 0) :
      Reaches n (.zero sign)
  | finite
      {m : Nat}
      {e : Int}
      {hMantissa : 0 < m}
      (hOne : (1 : ℚ) ≤ m * 2 ^ e)
      (hValue : (n : ℚ) ≤ m * 2 ^ e) :
      Reaches n (.finite .positive m e hMantissa)
  | infinite :
      Reaches n (.infinity .positive)

theorem Reaches.mono
    {k n : Nat}
    {u : UnpackedFloat}
    (hReaches : Reaches n u)
    (hLess : k ≤ n) :
    Reaches k u := by
  cases hReaches with
  | zero sign hZero => exact .zero sign (by omega)
  | infinite => exact .infinite
  | finite hOne hValue =>
      refine .finite hOne (le_trans ?_ hValue)
      exact_mod_cast hLess

/- The mantissas of doubles are whole unless these are tiny. -/
theorem canonical_unpack
    {bits : BitVec 64}
    {sign : Sign}
    {m : Nat}
    {e : Int}
    {hMantissa : 0 < m}
    (hUnpack :
      UnpackedFloat.unpack Format.binary64 bits =
        .finite sign m e hMantissa) :
    m < 2 ^ 53 ∧ (2 ^ 52 ≤ m ∨ e = -1074) := by
  have hBound := (@unpackMantissa Format.binary64 bits).isLt
  unfold UnpackedFloat.unpack at hUnpack
  dsimp only at hUnpack
  split_ifs at hUnpack with hLast hNothing hFirst hZero
  · rw [UnpackedFloat.finite.injEq] at hUnpack
    rcases hUnpack with ⟨-, rfl, rfl⟩
    refine ⟨Nat.lt_trans hBound (by decide), Or.inr ?_⟩
    rw [hFirst]
    rfl
  · rw [UnpackedFloat.finite.injEq] at hUnpack
    rcases hUnpack with ⟨-, rfl, rfl⟩
    have hAppend :
        (1#1 ++ @unpackMantissa Format.binary64 bits).toNat =
          2 ^ 52 +
            (@unpackMantissa Format.binary64 bits).toNat := by
      rw [BitVec.toNat_append,
        ← Nat.shiftLeft_add_eq_or_of_lt (BitVec.isLt _)]
      rfl
    rw [hAppend]
    have hShort :
        (@unpackMantissa Format.binary64 bits).toNat < 2 ^ 52 :=
      hBound
    exact ⟨by omega, Or.inl (by omega)⟩

section Values

variable {m n : Nat}
variable {e f : Int}

/- What is no less than one is not tiny. -/
theorem exponent_of_one_le
    (hMost : m < 2 ^ 53)
    (hOne : (1 : ℚ) ≤ m * 2 ^ e) :
    -53 < e := by
  by_contra hTiny
  have hPower : (2 : ℚ) ^ e ≤ 2 ^ (-53 : ℤ) :=
    zpow_le_zpow_right₀ (by norm_num) (by omega)
  have hShort : (m : ℚ) < 2 ^ (53 : ℤ) := by exact_mod_cast hMost
  have hUnit : (2 : ℚ) ^ (53 : ℤ) * 2 ^ (-53 : ℤ) = 1 := by
    rw [← zpow_add₀ (by norm_num)]
    norm_num
  have hLess : (m : ℚ) * 2 ^ e < 1 := by
    calc
      (m : ℚ) * 2 ^ e ≤ m * 2 ^ (-53 : ℤ) := by gcongr
      _ < 2 ^ (53 : ℤ) * 2 ^ (-53 : ℤ) := by gcongr
      _ = 1 := hUnit
  linarith

theorem whole_of_one_le
    {x : Float}
    {sign : Sign}
    {hMantissa : 0 < m}
    (hUnpack : x.toModel.unpack = .finite sign m e hMantissa)
    (hOne : (1 : ℚ) ≤ m * 2 ^ e) :
    2 ^ 52 ≤ m ∧ m < 2 ^ 53 := by
  rcases canonical_unpack hUnpack with ⟨hMost, hLeast⟩
  have hExponent := exponent_of_one_le hMost hOne
  exact ⟨hLeast.resolve_right (by omega), hMost⟩

/- The exponent is no lower than the mantissa is long. -/
theorem log2_of_one_le
    (hOne : (1 : ℚ) ≤ m * 2 ^ e) :
    -((m.log2 : Int) + 1) < e := by
  have hLess : (m : ℚ) < 2 ^ (m.log2 + 1) := by
    exact_mod_cast Nat.lt_log2_self
  have hPower : (2 : ℚ) ^ (0 : ℤ) < 2 ^ ((m.log2 : ℤ) + 1 + e) := by
    rw [zpow_zero, zpow_add₀ (by norm_num)]
    refine hOne.trans_lt ?_
    gcongr
    exact_mod_cast hLess
  have hOrder :=
    (zpow_lt_zpow_iff_right₀ (by norm_num : (1 : ℚ) < 2)).mp hPower
  omega

/- Whole mantissas are compared behind their exponents. -/
theorem compare_of_lt
    (hLeast : 2 ^ 52 ≤ m)
    (hMost : n < 2 ^ 53)
    (hValue : (m : ℚ) * 2 ^ e < n * 2 ^ f) :
    (compare e f).then (compare m n) = .lt ∧
      (compare f e).then (compare n m) = .gt := by
  have hOrder : e ≤ f := by
    by_contra hMore
    have hPower : (2 : ℚ) ^ f * 2 ≤ 2 ^ e := by
      rw [← zpow_add_one₀ (by norm_num)]
      exact zpow_le_zpow_right₀ (by norm_num) (by omega)
    have hLow : (2 : ℚ) ^ 52 ≤ m := by exact_mod_cast hLeast
    have hHigh : (n : ℚ) ≤ 2 ^ 53 := by exact_mod_cast hMost.le
    have hUnit : (0 : ℚ) < 2 ^ f := zpow_pos (by norm_num) f
    have hReverse : (n : ℚ) * 2 ^ f ≤ m * 2 ^ e := by
      calc
        (n : ℚ) * 2 ^ f ≤ 2 ^ 53 * 2 ^ f := by gcongr
        _ = 2 ^ 52 * (2 ^ f * 2) := by ring
        _ ≤ m * 2 ^ e := by gcongr
    linarith
  rcases hOrder.lt_or_eq with hLess | rfl
  · rw [Int.compare_eq_lt.mpr hLess, Int.compare_eq_gt.mpr hLess]
    exact ⟨rfl, rfl⟩
  · have hUnit : (0 : ℚ) < 2 ^ e := zpow_pos (by norm_num) e
    have hLess : m < n := by
      exact_mod_cast lt_of_mul_lt_mul_right hValue hUnit.le
    rw [Int.compare_eq_eq.mpr rfl, Nat.compare_eq_lt.mpr hLess,
      Nat.compare_eq_gt.mpr hLess]
    exact ⟨rfl, rfl⟩

end Values

/- A number is not changed when its mantissa is made whole. -/
theorem whole_value
    (k : Nat) :
    ((k * 2 ^ (52 - k.log2) : Nat) : ℚ) *
        2 ^ (-(52 - k.log2 : Nat) : ℤ) =
      k := by
  rw [Nat.cast_mul, Nat.cast_pow, mul_assoc, ← zpow_natCast,
    Nat.cast_ofNat, ← zpow_add₀ (by norm_num), add_neg_cancel,
    zpow_zero, mul_one]

theorem whole_bounds
    {k : Nat}
    (hPositive : 0 < k)
    (hBits : k.log2 ≤ 52) :
    2 ^ 52 ≤ k * 2 ^ (52 - k.log2) ∧
      k * 2 ^ (52 - k.log2) < 2 ^ 53 := by
  constructor
  · calc
      2 ^ 52 = 2 ^ k.log2 * 2 ^ (52 - k.log2) := by
        rw [← Nat.pow_add]
        congr 1
        omega
      _ ≤ k * 2 ^ (52 - k.log2) := by
        gcongr
        exact Nat.log2_self_le hPositive.ne'
  · calc
      k * 2 ^ (52 - k.log2) < 2 ^ (k.log2 + 1) * 2 ^ (52 - k.log2) := by
        gcongr
        exact Nat.lt_log2_self
      _ = 2 ^ 53 := by
        rw [← Nat.pow_add]
        congr 1
        omega

/- A small number is less than what reaches the next one. -/
theorem Reaches.compare_eq
    {k : Nat}
    {u : UnpackedFloat}
    {x : Float}
    (hCounts : Counts k u)
    (hSmall : k < 2 ^ 53)
    (hReaches : Reaches (k + 1) x.toModel.unpack) :
    UnpackedFloat.compare u x.toModel.unpack = some .lt ∧
      UnpackedFloat.compare x.toModel.unpack u = some .gt := by
  generalize hUnpack : x.toModel.unpack = v at hReaches
  cases hReaches with
  | zero sign hZero => omega
  | infinite =>
      cases hCounts with
      | zero hZero => exact ⟨rfl, rfl⟩
      | small hPositive hBits hMantissa => exact ⟨rfl, rfl⟩
      | large hLarge hUnit => omega
      | infinite hLarge => omega
  | @finite m e hMantissa hOne hValue =>
      rcases whole_of_one_le hUnpack hOne with ⟨hLeast, hMost⟩
      cases hCounts with
      | zero hZero => exact ⟨rfl, rfl⟩
      | small hPositive hBits hOther =>
          have hLog := (Nat.log2_lt hPositive.ne').mpr hBits
          have hWhole :=
            (whole_bounds hPositive (Nat.lt_succ_iff.mp hLog)).1
          have hSame := whole_value k
          have hLess :
              ((k * 2 ^ (52 - k.log2) : Nat) : ℚ) *
                  2 ^ (-(52 - k.log2 : Nat) : ℤ) <
                m * 2 ^ e := by
            rw [hSame]
            push_cast at hValue
            linarith
          rcases compare_of_lt hWhole hMost hLess with
            ⟨hBelow, hAbove⟩
          exact
            ⟨congrArg some hBelow, congrArg some hAbove⟩
      | large hLarge hUnit => omega
      | infinite hLarge => omega

------------------------------------------------------------
-- Rounding
------------------------------------------------------------

section Rounding

variable {n m : Nat}
variable {e : Int}

/- What is packed reaches what it has reached before. -/
theorem reaches_pack
    (hMantissa : 0 < m)
    (hLeast : 2 ^ 52 ≤ m)
    (hMost : m < 2 ^ 53)
    (hOne : (1 : ℚ) ≤ m * 2 ^ e)
    (hValue : (n : ℚ) ≤ m * 2 ^ e) :
    Reaches n
      (Float.ofModel
        (pack (.finite .positive m e hMantissa))).toModel.unpack := by
  have hLow := exponent_of_one_le hMost hOne
  by_cases hHigh : e ≤ 971
  · rw [unpack_pack .positive hMantissa hLeast hMost (by omega)
      hHigh]
    exact .finite hOne hValue
  · have hBiased : 2 ^ 11 ≤ (e + 1023 + 52).toNat + 1 := by
      omega
    have hPacked :
        UnpackedFloat.pack Format.binary64
            (.finite .positive m e hMantissa) =
          packedInfinity Format.binary64 .positive := by
      unfold UnpackedFloat.pack
      exact if_pos hBiased
    change
      Reaches n
        (UnpackedFloat.unpack Format.binary64
          (UnpackedFloat.pack Format.binary64
            (.finite .positive m e hMantissa)))
    rw [hPacked]
    exact .infinite

theorem reaches_infinity :
    Reaches n
      (Float.ofModel
        (pack (.infinity .positive))).toModel.unpack :=
  .infinite

theorem le_kept_mantissa
    (hBits : 52 ≤ m.log2)
    (hDropped : dropped m e = m.log2 - 52) :
    2 ^ 52 ≤ kept m e .exact := by
  have hPositive : m ≠ 0 := by
    rintro rfl
    simp at hBits
  refine Nat.le_trans ?_ (le_kept m e .exact)
  rw [hDropped, Nat.le_div_iff_mul_le (Nat.two_pow_pos _),
    ← Nat.pow_add, Nat.add_sub_cancel' hBits]
  exact Nat.log2_self_le hPositive

/- A small natural number stays below what is rounded. -/
theorem le_kept_value
    (hBits : 52 ≤ m.log2)
    (hDropped : dropped m e = m.log2 - 52)
    (hSmall : n ≤ 2 ^ 53)
    (hValue : (n : ℚ) ≤ m * 2 ^ e) :
    (n : ℚ) ≤ kept m e .exact * 2 ^ (e + dropped m e) := by
  have hKept := le_kept m e .exact
  rcases lt_or_ge 0 (e + dropped m e) with hLarge | hWhole
  · have hLow : (2 : ℚ) ^ 52 ≤ kept m e .exact := by
      exact_mod_cast le_kept_mantissa hBits hDropped
    have hTwo : (2 : ℚ) ^ (1 : ℤ) ≤ 2 ^ (e + dropped m e) :=
      zpow_le_zpow_right₀ (by norm_num) hLarge
    calc
      (n : ℚ) ≤ 2 ^ 53 := by exact_mod_cast hSmall
      _ = 2 ^ 52 * 2 ^ (1 : ℤ) := by norm_num
      _ ≤ kept m e .exact * 2 ^ (e + dropped m e) := by gcongr
  -- the number is a multiple of the last place that is kept
  · generalize hShift : (-(e + dropped m e)).toNat = shift
    have hExponent : e + dropped m e = -(shift : Int) := by omega
    have hTotal : e = -((shift + dropped m e : Nat) : Int) := by
      push_cast
      omega
    have hMultiple : n * 2 ^ (shift + dropped m e) ≤ m := by
      have hPower :
          (0 : ℚ) < 2 ^ (shift + dropped m e) := by positivity
      rw [hTotal, zpow_neg, zpow_natCast, ← div_eq_mul_inv,
        le_div_iff₀ hPower] at hValue
      exact_mod_cast hValue
    have hFloor : n * 2 ^ shift ≤ m / 2 ^ dropped m e := by
      rw [Nat.le_div_iff_mul_le (Nat.two_pow_pos _), Nat.mul_assoc,
        ← Nat.pow_add]
      exact hMultiple
    have hReached : ((n * 2 ^ shift : Nat) : ℚ) ≤ kept m e .exact := by
      exact_mod_cast hFloor.trans hKept
    rw [hExponent, zpow_neg, zpow_natCast, ← div_eq_mul_inv,
      le_div_iff₀ (by positivity)]
    exact_mod_cast hReached

/- What is rounded reaches the small numbers below it. -/
theorem reaches_round
    (hBits : 52 ≤ m.log2)
    (hSmall : n ≤ 2 ^ 53)
    (hOne : (1 : ℚ) ≤ m * 2 ^ e)
    (hValue : (n : ℚ) ≤ m * 2 ^ e) :
    Reaches n
      (Float.ofModel
        (pack
          (roundWithAccuracy Format.binary64 .positive m e
            .exact))).toModel.unpack := by
  have hTop := log2_of_one_le hOne
  have hDropped : dropped m e = m.log2 - 52 := by
    unfold dropped
    omega
  have hAgain := le_kept_value hBits hDropped hSmall hValue
  have hOnce :
      (1 : ℚ) ≤ kept m e .exact * 2 ^ (e + dropped m e) := by
    exact_mod_cast
      le_kept_value (n := 1) hBits hDropped (by decide)
        (by exact_mod_cast hOne)
  have hFirst := le_kept_mantissa hBits hDropped
  have hMost := kept_le_bound m e .exact
  rw [round_eq]
  split_ifs with hZero hLess
  · omega
  · exact reaches_pack _ hFirst hLess hOnce hAgain
  -- the mantissa has become too long by one bit
  · have hSame : kept m e .exact = 2 ^ 53 := by omega
    have hShift :
        ((2 ^ 52 : Nat) : ℚ) * 2 ^ (e + dropped m e + 1) =
          kept m e .exact * 2 ^ (e + dropped m e) := by
      rw [hSame, zpow_add_one₀ (by norm_num)]
      push_cast
      ring
    rw [← hShift] at hOnce hAgain
    exact
      reaches_pack _ (Nat.le_refl _) (by decide) hOnce hAgain

end Rounding

------------------------------------------------------------
-- Sums and Products
------------------------------------------------------------

theorem normalize_positive
    {m : Nat}
    (hPositive : 0 < m)
    (e : Int) :
    UnpackedFloat.normalize Format.binary64 (m : Int) e .positive =
      UnpackedFloat.round Format.binary64 .positive m e := by
  have hSign : compare (m : Int) 0 = .gt :=
    Int.compare_eq_gt.mpr (by omega)
  simp only [UnpackedFloat.normalize, hSign, Int.toNat_natCast]

/- What is added is brought to one exponent first. -/
theorem add_aligned
    {m m' : Nat}
    {e e' : Int}
    (hM : 0 < m)
    (hM' : 0 < m') :
    UnpackedFloat.add Format.binary64 (.finite .positive m e hM)
        (.finite .positive m' e' hM') =
      UnpackedFloat.round Format.binary64 .positive
        (m * 2 ^ (e - min e e').toNat +
          m' * 2 ^ (e' - min e e').toNat)
        (min e e') := by
  rw [← normalize_positive (by positivity)]
  simp only [UnpackedFloat.add, decreaseExponent,
    Nat.shiftLeft_eq, Nat.cast_add]
  rfl

/- What is rounded is brought to its place before. -/
theorem reaches_placed
    {n m : Nat}
    {e : Int}
    (hSmall : n ≤ 2 ^ 53)
    (hOne : (1 : ℚ) ≤ m * 2 ^ e)
    (hValue : (n : ℚ) ≤ m * 2 ^ e) :
    Reaches n
      (Float.ofModel
        (pack
          (UnpackedFloat.round Format.binary64 .positive m
            e))).toModel.unpack := by
  have hPositive : 0 < m := by
    rw [Nat.pos_iff_ne_zero]
    rintro rfl
    norm_num at hOne
  simp only [UnpackedFloat.round, decreaseExponent,
    targetExponent_eq, Nat.shiftLeft_eq]
  generalize hShift :
    (e - max ((m.log2 : Int) + 1 + e - 53) (-1074)).toNat = shift
  have hSame :
      ((m * 2 ^ shift : Nat) : ℚ) * 2 ^ (e - shift) = m * 2 ^ e := by
    rw [zpow_sub₀ (by norm_num), zpow_natCast]
    push_cast
    field_simp
  have hLog := Decimal.log2_mul_two_pow hPositive shift
  have hTop := log2_of_one_le hOne
  rw [← hSame] at hOne hValue
  exact reaches_round (by omega) hSmall hOne hValue

/- The mantissa of a number is long enough behind its point. -/
theorem log2_of_whole
    {m : Nat}
    (hLeast : 2 ^ 52 ≤ m) :
    52 ≤ m.log2 :=
  (Nat.le_log2 (by omega)).mpr hLeast

namespace Reaches

variable {k l n : Nat}
variable {x y : Float}

theorem mul
    (hLeft : Reaches k x.toModel.unpack)
    (hRight : Reaches l y.toModel.unpack)
    (hLeftOne : 1 ≤ k)
    (hRightOne : 1 ≤ l)
    (hProduct : n ≤ k * l)
    (hSmall : n ≤ 2 ^ 53) :
    Reaches n (x * y).toModel.unpack := by
  have hModel :
      x * y =
        Float.ofModel
          (pack
            (UnpackedFloat.mul Format.binary64 x.toModel.unpack
              y.toModel.unpack)) := rfl
  rw [hModel]
  generalize hX : x.toModel.unpack = u at hLeft
  generalize hY : y.toModel.unpack = v at hRight
  cases hLeft with
  | zero sign hZero => omega
  | infinite =>
      cases hRight with
      | zero sign hZero => omega
      | infinite => exact reaches_infinity
      | finite hOne hValue => exact reaches_infinity
  | @finite m e hM hOne hValue =>
      cases hRight with
      | zero sign hZero => omega
      | infinite => exact reaches_infinity
      | @finite m' e' hM' hOther hOtherValue =>
          have hWhole := (whole_of_one_le hX hOne).1
          have hPositive : 1 ≤ m' := hM'
          have hBits : 52 ≤ (m * m').log2 := by
            apply log2_of_whole
            calc
              2 ^ 52 = 2 ^ 52 * 1 := rfl
              _ ≤ m * m' := Nat.mul_le_mul hWhole hPositive
          have hSame := value_mul m m' e e'
          have hExact :
              ((k * l : Nat) : ℚ) ≤
                (m * m' : Nat) * 2 ^ (e + e') := by
            rw [hSame]
            push_cast
            gcongr
          refine reaches_round hBits hSmall ?_ ?_
          · rw [hSame]
            exact one_le_mul_of_one_le_of_one_le hOne hOther
          · refine le_trans ?_ hExact
            exact_mod_cast hProduct

/- What is aligned and added is rounded only then. -/
theorem add_finite
    {m m' : Nat}
    {e e' : Int}
    {hM : 0 < m}
    {hM' : 0 < m'}
    (hOne : (1 : ℚ) ≤ m * 2 ^ e)
    (hSmall : n ≤ 2 ^ 53)
    (hValue : (n : ℚ) ≤ m * 2 ^ e + m' * 2 ^ e') :
    Reaches n
      (Float.ofModel
        (pack
          (UnpackedFloat.add Format.binary64
            (.finite .positive m e hM)
            (.finite .positive m' e' hM')))).toModel.unpack := by
  have hAligned :
      ∀ (k : Nat) (f : Int),
        min e e' ≤ f →
          ((k * 2 ^ (f - min e e').toNat : Nat) : ℚ) *
              2 ^ min e e' =
            k * 2 ^ f := by
    intro k f hLeast
    rw [Nat.cast_mul, Nat.cast_pow, mul_assoc, ← zpow_natCast,
      Nat.cast_ofNat, ← zpow_add₀ (by norm_num)]
    congr 2
    omega
  have hSum :
      ((m * 2 ^ (e - min e e').toNat +
            m' * 2 ^ (e' - min e e').toNat : Nat) : ℚ) *
          2 ^ min e e' =
        m * 2 ^ e + m' * 2 ^ e' := by
    rw [Nat.cast_add, add_mul, hAligned m e (min_le_left e e'),
      hAligned m' e' (min_le_right e e')]
  have hOther : (0 : ℚ) ≤ m' * 2 ^ e' := by positivity
  rw [add_aligned]
  refine reaches_placed hSmall ?_ ?_
  · rw [hSum]
    linarith
  · rwa [hSum]

theorem add
    (hLeft : Reaches k x.toModel.unpack)
    (hRight : Reaches l y.toModel.unpack)
    (hSum : n ≤ k + l)
    (hSmall : n ≤ 2 ^ 53) :
    Reaches n (x + y).toModel.unpack := by
  have hModel :
      x + y =
        Float.ofModel
          (pack
            (UnpackedFloat.add Format.binary64 x.toModel.unpack
              y.toModel.unpack)) := rfl
  rw [hModel]
  generalize hX : x.toModel.unpack = u at hLeft
  generalize hY : y.toModel.unpack = v at hRight
  cases hLeft with
  | zero sign hZero =>
      cases hRight with
      | zero other hNone =>
          have hNothing : n = 0 := by omega
          cases sign <;> cases other <;> exact .zero _ hNothing
      | infinite => exact reaches_infinity
      | @finite m' e' hM' hOther hOtherValue =>
          rcases whole_of_one_le hY hOther with ⟨hLeast, hMost⟩
          refine reaches_pack hM' hLeast hMost hOther ?_
          refine le_trans ?_ hOtherValue
          exact_mod_cast (by omega : n ≤ l)
  | infinite =>
      cases hRight with
      | zero other hNone => exact reaches_infinity
      | infinite => exact reaches_infinity
      | finite hOther hOtherValue => exact reaches_infinity
  | @finite m e hM hOne hValue =>
      cases hRight with
      | zero other hNone =>
          rcases whole_of_one_le hX hOne with ⟨hLeast, hMost⟩
          refine reaches_pack hM hLeast hMost hOne ?_
          refine le_trans ?_ hValue
          exact_mod_cast (by omega : n ≤ k)
      | infinite => exact reaches_infinity
      | @finite m' e' hM' hOther hOtherValue =>
          refine add_finite hOne hSmall ?_
          have hTotal : (n : ℚ) ≤ k + l := by exact_mod_cast hSum
          linarith

end Reaches

/- The double of a number reaches the small ones up to it. -/
theorem Counts.reaches
    {k n : Nat}
    {x : Float}
    (hCounts : Counts k x.toModel.unpack)
    (hMost : n ≤ k)
    (hSmall : n ≤ 2 ^ 53) :
    Reaches n x.toModel.unpack := by
  generalize hUnpack : x.toModel.unpack = u at hCounts
  cases hCounts with
  | zero hZero => exact .zero _ (by omega)
  | small hPositive hBits hMantissa =>
      have hSame :
          ((k * 2 ^ (52 - k.log2) : Nat) : ℚ) *
              2 ^ (-(52 - k.log2 : Nat) : ℤ) =
            k :=
        whole_value k
      refine .finite ?_ ?_
      · rw [hSame]
        exact_mod_cast hPositive
      · rw [hSame]
        exact_mod_cast hMost
  | @large m e hMantissa hLarge hUnit =>
      rcases canonical_unpack hUnpack with ⟨-, hLeast | hTiny⟩
      · have hFirst : (2 : ℚ) ^ 52 ≤ m := by exact_mod_cast hLeast
        have hTwo : (2 : ℚ) ^ (1 : ℤ) ≤ 2 ^ e :=
          zpow_le_zpow_right₀ (by norm_num) hUnit
        have hValue : (2 : ℚ) ^ 53 ≤ m * 2 ^ e := by
          calc
            (2 : ℚ) ^ 53 = (2 : ℚ) ^ 52 * (2 : ℚ) ^ (1 : ℤ) := by
              norm_num
            _ ≤ (m : ℚ) * 2 ^ e := by gcongr
        refine .finite (le_trans (by norm_num) hValue) ?_
        refine le_trans ?_ hValue
        exact_mod_cast hSmall
      · omega
  | infinite hLarge => exact .infinite

------------------------------------------------------------
-- Small Numbers
------------------------------------------------------------

theorem counts_one :
    Counts 1 (1 : Float).toModel.unpack :=
  Decimal.counts_toFloat 1

/- What is counted with all of its bits is not rounded. -/
theorem dropped_counted
    {k : Nat}
    (hPositive : 0 < k) :
    dropped (k * 2 ^ 52) (-52) = k.log2 := by
  have hLog := Decimal.log2_mul_two_pow hPositive 52
  unfold dropped
  omega

/- No bit is lost of a number that has no more than fit. -/
theorem kept_counted
    {k : Nat}
    (hPositive : 0 < k)
    (hSmall : k < 2 ^ 53) :
    kept (k * 2 ^ 52) (-52) .exact = k * 2 ^ (52 - k.log2) := by
  have hBits : k.log2 < 53 := (Nat.log2_lt hPositive.ne').mpr hSmall
  have hSplit :
      k * 2 ^ 52 = k * 2 ^ (52 - k.log2) * 2 ^ k.log2 := by
    rw [Nat.mul_assoc, ← Nat.pow_add]
    congr 2
    omega
  have hBelow := le_kept (k * 2 ^ 52) (-52) .exact
  have hAbove := kept_half (k * 2 ^ 52) (-52)
  have hUnit := Nat.two_pow_pos k.log2
  rw [dropped_counted hPositive, hSplit,
    Nat.mul_div_cancel _ hUnit, ← hSplit] at hBelow
  rw [dropped_counted hPositive] at hAbove
  refine le_antisymm ?_ hBelow
  by_contra hMore
  have hNext :
      k * 2 ^ (52 - k.log2) + 1 ≤
        kept (k * 2 ^ 52) (-52) .exact := by
    omega
  have hScaled :
      2 * ((k * 2 ^ (52 - k.log2) + 1) * 2 ^ k.log2) ≤
        2 * (kept (k * 2 ^ 52) (-52) .exact * 2 ^ k.log2) := by
    gcongr
  have hExpand :
      (k * 2 ^ (52 - k.log2) + 1) * 2 ^ k.log2 =
        k * 2 ^ 52 + 2 ^ k.log2 := by
    rw [Nat.add_mul, ← hSplit, Nat.one_mul]
  omega

theorem round_counted
    {k : Nat}
    (hPositive : 0 < k)
    (hSmall : k < 2 ^ 53) :
    Counts k
      (Float.ofModel
        (pack
          (UnpackedFloat.round Format.binary64 .positive
            (k * 2 ^ 52) (-52)))).toModel.unpack := by
  have hLog := Decimal.log2_mul_two_pow hPositive 52
  have hBits : k.log2 < 53 := (Nat.log2_lt hPositive.ne').mpr hSmall
  have hShift :
      ((-52 : Int) -
          max (((k * 2 ^ 52).log2 : Int) + 1 + -52 - 53)
            (-1074)).toNat = 0 := by
    omega
  have hMantissa : 0 < k * 2 ^ (52 - k.log2) := by positivity
  rcases whole_bounds hPositive (Nat.lt_succ_iff.mp hBits) with
    ⟨hLeast, hMost⟩
  have hExponent :
      (-52 : Int) + (k.log2 : Int) = -(52 - k.log2 : Nat) := by
    omega
  simp only [UnpackedFloat.round, decreaseExponent,
    targetExponent_eq, Nat.shiftLeft_eq, hShift, pow_zero,
    Nat.mul_one, Nat.cast_zero, sub_zero, round_eq,
    kept_counted hPositive hSmall, dropped_counted hPositive,
    dif_neg hMantissa.ne', if_pos hMost, hExponent]
  rw [unpack_pack .positive hMantissa hLeast hMost (by omega)
    (by omega)]
  exact .small hPositive hSmall hMantissa

theorem unpack_one :
    (1 : Float).toModel.unpack =
      .finite .positive (2 ^ 52) (-52) (Nat.two_pow_pos 52) :=
  rfl

/- One more is counted without rounding. -/
theorem Counts.add_one
    {k : Nat}
    {x : Float}
    (hCounts : Counts k x.toModel.unpack)
    (hSmall : k + 1 < 2 ^ 53) :
    Counts (k + 1) (x + 1).toModel.unpack := by
  have hModel :
      x + 1 =
        Float.ofModel
          (pack
            (UnpackedFloat.add Format.binary64 x.toModel.unpack
              (1 : Float).toModel.unpack)) := rfl
  rw [hModel, unpack_one]
  generalize hUnpack : x.toModel.unpack = u at hCounts
  cases hCounts with
  | zero hZero =>
      subst hZero
      exact counts_one
  | small hPositive hLess hMantissa =>
      have hBits := (Nat.log2_lt hPositive.ne').mpr hLess
      have hLeast : min (-(52 - k.log2 : Nat) : Int) (-52) = -52 := by
        omega
      have hShift :
          (-(52 - k.log2 : Nat) - -52 : Int).toNat = k.log2 := by
        omega
      have hSum :
          k * 2 ^ (52 - k.log2) * 2 ^ k.log2 + 2 ^ 52 =
            (k + 1) * 2 ^ 52 := by
        rw [Nat.mul_assoc, ← Nat.pow_add, Nat.add_mul, Nat.one_mul]
        congr 3
        omega
      rw [add_aligned, hLeast, hShift, Int.sub_self, Int.toNat_zero,
        pow_zero, Nat.mul_one, hSum]
      exact round_counted (Nat.succ_pos k) hSmall
  | large hLarge hUnit => omega
  | infinite hLarge => omega

end Double

end Devirt

------------------------------------------------------------
-- Whole Parts
------------------------------------------------------------

namespace Devirt

namespace Decimal

open Double Float.Model Float.Model.UnpackedFloat

/- A number is at least its whole part. -/
theorem le_quotient
    {b : Binary}
    {n : Nat}
    (hWhole :
      n ≤
        if b.exponent ≥ 0 then
          b.mantissa * 2 ^ b.exponent.toNat
        else b.mantissa / 2 ^ (-b.exponent).toNat) :
    (n : ℚ) ≤ b.mantissa * 2 ^ b.exponent := by
  split_ifs at hWhole with hUp
  · have hPower : ((b.exponent.toNat : Nat) : ℤ) = b.exponent := by
      omega
    rw [← hPower, zpow_natCast]
    exact_mod_cast hWhole
  · have hPower :
        b.exponent = -(((-b.exponent).toNat : Nat) : ℤ) := by
      omega
    rw [Nat.le_div_iff_mul_le (Nat.two_pow_pos _)] at hWhole
    rw [hPower, zpow_neg, zpow_natCast, ← div_eq_mul_inv,
      le_div_iff₀ (by positivity)]
    exact_mod_cast hWhole

/- A double that is no number and not infinite is none at all. -/
theorem finite_of_isInf
    {x : Float}
    (hNaN : x.isNaN = false)
    (hInf : x.isInf = false) :
    x.toBits.toNat / 2 ^ 52 % 2 ^ 11 < 2047 := by
  by_contra hLast
  have hExponent := toNat_unpackExponent x.toBits
  have hAll :
      @unpackExponent Format.binary64 x.toBits.toBitVec = -1#11 := by
    apply BitVec.eq_of_toNat_eq
    rw [hExponent]
    have hNumber : (-1#11).toNat = 2047 := by decide
    omega
  change (UnpackedFloat.unpack Format.binary64
    x.toBits.toBitVec).isNaN = false at hNaN
  change (UnpackedFloat.unpack Format.binary64
    x.toBits.toBitVec).isInf = false at hInf
  unfold UnpackedFloat.unpack at hNaN hInf
  dsimp only at hNaN hInf
  rw [if_pos hAll] at hNaN hInf
  split_ifs at hNaN hInf <;> simp_all [UnpackedFloat.isNaN, UnpackedFloat.isInf]

theorem reaches_truncate
    {x : Float}
    {n : Nat}
    (hNaN : x.isNaN = false)
    (hInf : x.isInf = false)
    (hOne : 1 ≤ n)
    (hWhole : (n : Int) ≤ truncate x) :
    Reaches n x.toModel.unpack := by
  have hFinite := finite_of_isInf hNaN hInf
  have hSign : isNegative x = false := by
    by_contra hNegative
    rw [Bool.not_eq_false] at hNegative
    simp only [truncate, hNegative, if_true] at hWhole
    have hNone := Int.natCast_nonneg ((quotient x).1 / (quotient x).2)
    omega
  have hPositive : x.toBits.toNat < 2 ^ 63 := by
    unfold isNegative at hSign
    simpa [UInt64.le_iff_toNat_le] using hSign
  have hLess :
      (n : ℚ) ≤
        (Binary.ofBits x.toBits).mantissa *
          2 ^ (Binary.ofBits x.toBits).exponent := by
    apply le_quotient
    simp only [truncate, quotient, hSign, Bool.false_eq_true,
      if_false, Nat.pow_eq] at hWhole
    split_ifs at hWhole ⊢ with hUp
    · rw [Nat.div_one] at hWhole
      exact_mod_cast hWhole
    · exact_mod_cast hWhole
  have hMantissa : 0 < (Binary.ofBits x.toBits).mantissa := by
    rw [Nat.pos_iff_ne_zero]
    intro hZero
    rw [hZero, Nat.cast_zero, zero_mul] at hLess
    have hAtLeast : (1 : ℚ) ≤ n := by exact_mod_cast hOne
    linarith
  have hUnpack := unpack_ofBits hPositive hFinite hMantissa
  change Reaches n
    (UnpackedFloat.unpack Format.binary64 x.toBits.toBitVec)
  rw [hUnpack]
  refine .finite (le_trans ?_ hLess) hLess
  exact_mod_cast hOne

/- A small number is its own whole part. -/
theorem truncate_ofNat
    {k : Nat}
    (hSmall : k < 2 ^ 53) :
    truncate (ofNat k) = k := by
  have hCounts := counts_ofNat k
  have hMagnitude : IsMagnitude (ofNat k) := by
    rcases (isNumeral_ofScaled k 0).cases with
      hMagnitude | hInfinite
    · exact hMagnitude
    · have hUnpack :
          (1.0 / 0.0 : Float).toModel.unpack =
            .infinity .positive := rfl
      change ofNat k = _ at hInfinite
      rw [hInfinite, hUnpack] at hCounts
      cases hCounts
      omega
  have hSign : isNegative (ofNat k) = false := by
    have hLess := hMagnitude.sign
    unfold isNegative
    simpa [UInt64.le_iff_toNat_le] using hLess
  unfold truncate
  simp only [hSign, Bool.false_eq_true, if_false, Nat.cast_inj]
  rcases hMagnitude.eq_zero_or_positive with hZero | hPositive
  · rw [hZero] at hCounts ⊢
    have hUnpack : (0 : Float).toModel.unpack = .zero .positive :=
      rfl
    rw [hUnpack] at hCounts
    cases hCounts with
    | zero hNothing =>
        subst hNothing
        decide +kernel
  · have hUnpack := hMagnitude.unpack_eq hPositive
    rw [hUnpack] at hCounts
    unfold quotient
    dsimp only
    generalize (Binary.ofBits (ofNat k).toBits).mantissa = m at *
    generalize (Binary.ofBits (ofNat k).toBits).exponent = e at *
    cases hCounts with
    | small hSome hLess hMantissa =>
        generalize 52 - k.log2 = shift
        split_ifs with hUp
        · have hNone : shift = 0 := by omega
          subst hNone
          simp
        · have hShift : (-(-(shift : Int))).toNat = shift := by
            omega
          rw [hShift]
          exact Nat.mul_div_cancel k (Nat.two_pow_pos shift)
    | large hLarge hUnit => omega

end Decimal

end Devirt

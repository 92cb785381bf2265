import Devirt.Proofs.Decimal.Range

/-
  Doubles of natural numbers.

  A natural number of at most fifty-three bits is a double.  A
  larger one is rounded, but neither below these nor among
  them.  So numbers are ordered as their doubles are, as long
  as one of the two is small, and a small one can be taken back
  from its double.

  Main declarations:
    * `Double.Counts`, `Double.Counts.lt_iff`,
      `Double.Counts.toUInt64_eq`
    * `Decimal.counts_ofNat`, `Decimal.counts_toFloat`
    * `Decimal.ofNat_lt_toFloat_iff`, `Decimal.toUInt64_ofNat`
-/

------------------------------------------------------------
-- Unpacked Numbers
------------------------------------------------------------

namespace Devirt

namespace Double

open Float.Model Float.Model.UnpackedFloat

/-
  What the double of a natural number is made of.  Only of a
  large number it is not known exactly.
-/
inductive Counts (n : Nat) : UnpackedFloat → Prop where
  | zero
      (hZero : n = 0) :
      Counts n (.zero .positive)
  | small
      (hPositive : 0 < n)
      (hSmall : n < 2 ^ 53)
      (hMantissa : 0 < n * 2 ^ (52 - n.log2)) :
      Counts n
        (.finite .positive (n * 2 ^ (52 - n.log2))
          (-(52 - n.log2 : Nat)) hMantissa)
  | large
      {m : Nat}
      {e : Int}
      {hMantissa : 0 < m}
      (hLarge : 2 ^ 53 ≤ n)
      (hUnit : 1 ≤ e) :
      Counts n (.finite .positive m e hMantissa)
  | infinite
      (hLarge : 2 ^ 53 ≤ n) :
      Counts n (.infinity .positive)

/- Numbers with whole mantissas are ordered as these are. -/
theorem lt_iff_of_small
    {k l : Nat}
    (hK : 0 < k)
    (hL : 0 < l)
    (hSmallK : k < 2 ^ 53)
    (hSmallL : l < 2 ^ 53) :
    (compare (-(52 - k.log2 : Nat) : Int) (-(52 - l.log2 : Nat))).then
        (compare (k * 2 ^ (52 - k.log2))
          (l * 2 ^ (52 - l.log2))) = .lt ↔
      k < l := by
  have hBitsK := (Nat.log2_lt hK.ne').mpr hSmallK
  have hBitsL := (Nat.log2_lt hL.ne').mpr hSmallL
  rw [Ordering.then_eq_lt, Int.compare_eq_lt, Int.compare_eq_eq,
    Nat.compare_eq_lt]
  rcases Nat.lt_trichotomy k.log2 l.log2 with
    hLess | hSame | hMore
  · have hOrder : k < l := by
      calc
        k < 2 ^ (k.log2 + 1) := Nat.lt_log2_self
        _ ≤ 2 ^ l.log2 := Nat.pow_le_pow_right (by decide) hLess
        _ ≤ l := Nat.log2_self_le hL.ne'
    exact iff_of_true (Or.inl (by omega)) hOrder
  · rw [hSame, Nat.mul_lt_mul_right (Nat.two_pow_pos _)]
    simp
  · have hOrder : l < k := by
      calc
        l < 2 ^ (l.log2 + 1) := Nat.lt_log2_self
        _ ≤ 2 ^ k.log2 := Nat.pow_le_pow_right (by decide) hMore
        _ ≤ k := Nat.log2_self_le hK.ne'
    exact iff_of_false (by omega) (by omega)

namespace Counts

variable {k l : Nat}
variable {u v : UnpackedFloat}

/- Numbers are ordered as their doubles, if one is small. -/
theorem lt_iff
    (hLeft : Counts k u)
    (hRight : Counts l v)
    (hSmall : k < 2 ^ 53 ∨ l < 2 ^ 53) :
    UnpackedFloat.lt u v = true ↔ k < l := by
  unfold UnpackedFloat.lt
  rw [beq_iff_eq]
  cases hLeft with
  | zero hZero =>
      subst hZero
      cases hRight with
      | zero hOther => simp [UnpackedFloat.compare, hOther]
      | small hPositive _ _ =>
          simpa [UnpackedFloat.compare] using hPositive
      | large hLarge _ =>
          simp only [UnpackedFloat.compare, true_iff]
          omega
      | infinite hLarge =>
          simp only [UnpackedFloat.compare, true_iff]
          omega
  | small hPositive hSmallK hMantissa =>
      cases hRight with
      | zero hOther => simp [UnpackedFloat.compare, hOther]
      | small hOther hSmallL _ =>
          simp only [UnpackedFloat.compare, Option.some.injEq]
          exact lt_iff_of_small hPositive hOther hSmallK hSmallL
      | large hLarge hUnit =>
          have hExponents :
              compare (-(52 - k.log2 : Nat) : Int) _ = .lt :=
            Int.compare_eq_lt.mpr
              (Int.lt_of_le_of_lt (by omega)
                (Int.lt_of_lt_of_le Int.zero_lt_one hUnit))
          simp only [UnpackedFloat.compare, hExponents,
            Ordering.lt_then, true_iff]
          omega
      | infinite hLarge =>
          simp only [UnpackedFloat.compare, true_iff]
          omega
  | large hLarge hUnit =>
      cases hRight with
      | zero hOther => simp [UnpackedFloat.compare, hOther]
      | small hOther hSmallL _ =>
          have hExponents :
              compare _ (-(52 - l.log2 : Nat) : Int) = .gt :=
            Int.compare_eq_gt.mpr
              (Int.lt_of_le_of_lt (by omega)
                (Int.lt_of_lt_of_le Int.zero_lt_one hUnit))
          simp only [UnpackedFloat.compare, hExponents,
            Ordering.gt_then]
          exact iff_of_false (by decide) (by omega)
      | large hOther _ => omega
      | infinite hOther => omega
  | infinite hLarge =>
      cases hRight with
      | zero hOther => simp [UnpackedFloat.compare, hOther]
      | small _ hSmallL _ =>
          simp only [UnpackedFloat.compare]
          exact iff_of_false (by decide) (by omega)
      | large hOther _ => omega
      | infinite hOther => omega

/- A small number can be taken back. -/
theorem toUInt64_eq
    (hCounts : Counts k u)
    (hSmall : k < 2 ^ 53) :
    u.toUInt64.toNat = k := by
  cases hCounts with
  | zero hZero => rw [hZero]; rfl
  | small hPositive _ hMantissa =>
      have hRounded :
          roundToInt .positive (k * 2 ^ (52 - k.log2))
              (-(52 - k.log2 : Nat)) = k := by
        simp only [roundToInt, decreaseExponent, shiftToExponent,
          shiftRight_mantissa, ofMantissaAndAccuracy_mantissa]
        generalize 52 - k.log2 = shift
        have hUp : (-(shift : Int) - 0).toNat = 0 := by omega
        have hDown :
            (0 - (-(shift : Int) - ((0 : Nat) : Int))).toNat =
              shift := by
          omega
        rw [hUp, hDown, Nat.shiftLeft_zero,
          Nat.mul_div_cancel _ (Nat.two_pow_pos _)]
        rfl
      simp only [UnpackedFloat.toUInt64, toInt, hRounded,
        Int.toNat_natCast]
      exact
        UInt64.toNat_ofNatClamp_of_lt
          (Nat.lt_trans hSmall (by decide))
  | large hLarge _ => omega
  | infinite hLarge => omega

end Counts

end Double

end Devirt

------------------------------------------------------------
-- Read Numbers
------------------------------------------------------------

namespace Devirt

namespace Decimal

open Double Float.Model Float.Model.UnpackedFloat

/- A double that is packed with a large exponent. -/
theorem counts_pack
    {n m : Nat}
    {e : Int}
    (hLarge : 2 ^ 53 ≤ n)
    (hMantissa : 0 < m)
    (hLeast : 2 ^ 52 ≤ m)
    (hMost : m < 2 ^ 53)
    (hUnit : 1 ≤ e) :
    Counts n
      (Float.ofModel
        (pack (.finite .positive m e hMantissa))).toModel.unpack := by
  by_cases hHigh : e ≤ 971
  · rw [unpack_pack .positive hMantissa hLeast hMost (by omega)
      hHigh]
    exact .large hLarge hUnit
  · have hBiased : 2 ^ 11 ≤ (e + 1023 + 52).toNat + 1 := by
      omega
    have hPacked :
        UnpackedFloat.pack Format.binary64
            (.finite .positive m e hMantissa) =
          packedInfinity Format.binary64 .positive := by
      unfold UnpackedFloat.pack
      exact if_pos hBiased
    change
      Counts n
        (UnpackedFloat.unpack Format.binary64
          (UnpackedFloat.pack Format.binary64
            (.finite .positive m e hMantissa)))
    rw [hPacked]
    exact .infinite hLarge

theorem log2_mul_two_pow
    {n : Nat}
    (hPositive : 0 < n)
    (shift : Nat) :
    (n * 2 ^ shift).log2 = n.log2 + shift := by
  have hProduct : 0 < n * 2 ^ shift := by positivity
  rw [Nat.log2_eq_iff hProduct.ne', Nat.add_right_comm,
    Nat.pow_add, Nat.pow_add 2 (n.log2 + 1)]
  refine ⟨?_, ?_⟩
  · gcongr
    exact Nat.log2_self_le hPositive.ne'
  · gcongr
    exact Nat.lt_log2_self

/- A number that is rounded to fifty-three bits. -/
theorem counts_large
    {n : Nat}
    (hLarge : 2 ^ 53 ≤ n) :
    Counts n
      (Float.ofScientific n false 0).toModel.unpack := by
  have hPositive : 0 < n := by omega
  rw [ofScientific_slow hPositive (by omega) (by decide),
    pow_zero, Nat.mul_one]
  have hLog := log2_mul_two_pow hPositive 53
  have hBits : 53 ≤ n.log2 := (Nat.le_log2 hPositive.ne').mpr hLarge
  have hDropped : dropped (n * 2 ^ 53) (-53) = n.log2 + 1 := by
    unfold dropped
    omega
  have hKept : 2 ^ 52 ≤ kept (n * 2 ^ 53) (-53) .exact := by
    apply Nat.le_trans _ (le_kept _ _ _)
    rw [hDropped, Nat.le_div_iff_mul_le (Nat.two_pow_pos _),
      ← Nat.pow_add]
    calc
      2 ^ (52 + (n.log2 + 1)) = 2 ^ n.log2 * 2 ^ 53 := by
        rw [← Nat.pow_add]
        congr 1
        omega
      _ ≤ n * 2 ^ 53 := by
        gcongr
        exact Nat.log2_self_le hPositive.ne'
  rw [round_eq]
  split_ifs with hZero hSmall
  · omega
  · exact
      counts_pack hLarge _ hKept hSmall (by rw [hDropped]; omega)
  · exact
      counts_pack hLarge _ (by decide) (by decide)
        (by rw [hDropped]; omega)

/- The product with one is not rounded. -/
theorem round_mul_one
    {m : Nat}
    {e : Int}
    (hMantissa : 0 < m)
    (hLeast : 2 ^ 52 ≤ m)
    (hMost : m < 2 ^ 53)
    (hLow : -1074 ≤ e) :
    roundWithAccuracy Format.binary64 .positive (m * 2 ^ 52)
        (e + -52) .exact =
      .finite .positive m e hMantissa := by
  have hLog : (m * 2 ^ 52).log2 = 104 := by
    rw [log2_mul_two_pow hMantissa,
      (Nat.log2_eq_iff hMantissa.ne').mpr ⟨hLeast, hMost⟩]
  have hDropped : dropped (m * 2 ^ 52) (e + -52) = 52 := by
    unfold dropped
    omega
  have hKept : kept (m * 2 ^ 52) (e + -52) .exact = m := by
    have hBelow := le_kept (m * 2 ^ 52) (e + -52) .exact
    have hAbove := kept_half (m * 2 ^ 52) (e + -52)
    rw [hDropped, Nat.mul_div_cancel _ (Nat.two_pow_pos _)]
      at hBelow
    rw [hDropped] at hAbove
    omega
  have hExponent : e + -52 + ((52 : Nat) : Int) = e := by omega
  simp only [round_eq, hKept, hDropped, dif_neg hMantissa.ne',
    if_pos hMost, hExponent]

/- The first power of ten is one. -/
theorem unpack_firstPower :
    Float.exactlyRepresentablePowersOfTen[0].toModel.unpack =
      .finite .positive (2 ^ 52) (-52) (Nat.two_pow_pos 52) :=
  rfl

/- A number that is multiplied by one. -/
theorem counts_small
    {n : Nat}
    (hPositive : 0 < n)
    (hSmall : n < 2 ^ 53) :
    Counts n
      (Float.ofScientific n false 0).toModel.unpack := by
  have hFast : n < 2 ^ 53 ∧ 0 ≤ 22 := ⟨hSmall, Nat.zero_le _⟩
  rcases ofScientific_fast hFast with
    ⟨i, hFirst, hProduct⟩
  have hOne := unpack_firstPower
  have hSame :
      Float.exactlyRepresentablePowersOfTen[i] =
        Float.exactlyRepresentablePowersOfTen[0] := by
    simp only [Fin.getElem_fin, hFirst]
  rw [hSame] at hProduct
  generalize Float.exactlyRepresentablePowersOfTen[0] = one
    at hProduct hOne
  rcases unpack_toFloat hPositive hSmall with
    ⟨hMantissa, hNumber, hLeast, hMost⟩
  have hPacked :
      n.toUInt64.toFloat * one =
        Float.ofModel
          (pack
            (UnpackedFloat.mul Format.binary64
              n.toUInt64.toFloat.toModel.unpack
              one.toModel.unpack)) := rfl
  rw [hNumber, hOne] at hPacked
  have hRounded :=
    round_mul_one (e := -(52 - n.log2 : Nat)) hMantissa hLeast
      hMost (by omega)
  rw [hProduct, hPacked]
  change
    Counts n
      (Float.ofModel
        (pack
          (roundWithAccuracy Format.binary64 .positive _ _
            .exact))).toModel.unpack
  rw [hRounded,
    unpack_pack .positive hMantissa hLeast hMost (by omega)
      (by omega)]
  exact .small hPositive hSmall hMantissa

theorem counts_ofScientific
    (n : Nat) :
    Counts n (Float.ofScientific n false 0).toModel.unpack := by
  rcases Nat.eq_zero_or_pos n with rfl | hPositive
  · exact .zero rfl
  · rcases Nat.lt_or_ge n (2 ^ 53) with hSmall | hLarge
    · exact counts_small hPositive hSmall
    · exact counts_large hLarge

theorem counts_toFloat
    (n : Nat) :
    Counts n n.toFloat.toModel.unpack :=
  counts_ofScientific n

theorem counts_ofNat
    (n : Nat) :
    Counts n (ofNat n).toModel.unpack := by
  unfold ofNat ofScaled
  dsimp only
  rw [if_pos (show (0 : Int) ≥ 0 from Int.le_refl 0)]
  split_ifs with hZero hMany hFew
  · exact .zero hZero
  · -- so many digits are not those of a small number
    refine .infinite ?_
    by_contra hSmall
    have hWord : n < 2 ^ 64 :=
      Nat.lt_trans (Nat.lt_of_not_le hSmall) (by decide)
    have hDigits := digits_le hWord
    omega
  · omega
  · exact counts_ofScientific n

/- Numbers are ordered as their doubles, if one is small. -/
theorem ofNat_lt_toFloat_iff
    {k l : Nat}
    (hSmall : k < 2 ^ 53 ∨ l < 2 ^ 53) :
    ofNat k < l.toFloat ↔ k < l := by
  rw [← (counts_ofNat k).lt_iff (counts_toFloat l) hSmall]
  change Float.lt (ofNat k) l.toFloat = true ↔ _
  unfold Float.lt
  rw [decide_eq_true_eq]
  rfl

/- A small number can be taken back. -/
theorem toUInt64_ofNat
    {k : Nat}
    (hSmall : k < 2 ^ 53) :
    (ofNat k).toUInt64.toNat = k :=
  (counts_ofNat k).toUInt64_eq hSmall

end Decimal

end Devirt

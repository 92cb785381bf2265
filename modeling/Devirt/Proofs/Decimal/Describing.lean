import Devirt.Proofs.Decimal.ReadBack
import Devirt.Proofs.Restoration.Indices

/-
  Numbers are told apart by their texts in names.

  A double in a name is written as an integer if it is a short
  one, and in all its digits otherwise.  Either text is read back
  as the same double, so no two doubles share one.

  Main declarations:
    * `Literal.number?_write`, `Literal.number?_natural`
    * `Literal.number?_describe`
    * `Decimal.IsNumeral`, `Decimal.isNumeral_ofScaled`
    * `Decimal.IsNumeral.describe_inj`
-/

------------------------------------------------------------
-- Digits and Points
------------------------------------------------------------

namespace Devirt

namespace Literal

open Decimal

theorem isDigit_eq
    (c : Char) :
    isDigit c = c.isDigit := by
  rw [Bool.eq_iff_iff]
  simp [isDigit, Char.isDigit, Char.le_def, UInt32.le_iff_toNat_le]

/- Digits before a point, and digits behind it. -/
theorem decimal?_point
    {whole fraction : List Char}
    (hWhole : ∀ c ∈ whole, c.isDigit = true)
    (hFraction : ∀ c ∈ fraction, c.isDigit = true)
    (hSome : whole ≠ [] ∨ fraction ≠ []) :
    decimal? (whole ++ '.' :: fraction) =
      some (ofNumeral whole fraction 0) := by
  have hRun :
      (whole ++ '.' :: fraction).takeWhile isDigit = whole ∧
        (whole ++ '.' :: fraction).dropWhile isDigit =
          '.' :: fraction :=
    takeWhile_run
      (fun c hMember => (isDigit_eq c).trans (hWhole c hMember))
      (by simp [isDigit])
  have hAll : fraction.all isDigit = true := by
    rw [List.all_eq_true]
    exact fun c hMember =>
      (isDigit_eq c).trans (hFraction c hMember)
  have hNotBoth :
      (!(whole.isEmpty && fraction.isEmpty)) = true := by
    rcases hSome with hSome | hSome <;> simp [hSome]
  unfold decimal?
  dsimp only
  rw [hRun.1, hRun.2]
  simp only [hAll, hNotBoth, Bool.and_self, if_true]

section Spelled

variable {n : Numeral}
variable {d : Digits}

theorem text_of_spells
    (hSpells : n.Spells d) :
    n.text =
      n.whole ++
        if n.fraction.isEmpty then [] else '.' :: n.fraction := by
  simp only [Numeral.text, Numeral.powerText, hSpells.noPower,
    List.append_nil, Numeral.pointText]

theorem decimal?_text
    (hSpells : n.Spells d) :
    decimal? n.text = some (ofScaled n.significand n.exponent) := by
  have hExponent : n.exponent = 0 - (n.fraction.length : Int) := by
    simp only [Numeral.exponent, Numeral.powerValue,
      hSpells.noPower]
  rw [text_of_spells hSpells]
  split_ifs with hNone
  · rw [List.isEmpty_iff] at hNone
    have hDigits : ∀ c ∈ n.whole, isDigit c = true :=
      fun c hMember =>
        (isDigit_eq c).trans (hSpells.wholeDigits c hMember)
    rw [List.append_nil, decimal?_eq hDigits hSpells.whole_ne_nil,
      hExponent, Numeral.significand, hNone, List.append_nil]
    rfl
  · rw [decimal?_point hSpells.wholeDigits hSpells.fractionDigits
      (Or.inl hSpells.whole_ne_nil), hExponent]
    rfl

/- A digit, or what stands among digits. -/
theorem mem_text_of_spells
    (hSpells : n.Spells d)
    {c : Char}
    (hMember : c ∈ n.text) :
    c.isDigit = true ∨ c = '.' := by
  rw [text_of_spells hSpells] at hMember
  rcases List.mem_append.mp hMember with hWhole | hRest
  · exact Or.inl (hSpells.wholeDigits c hWhole)
  · split_ifs at hRest
    · cases hRest
    · rcases List.mem_cons.mp hRest with hPoint | hFraction
      · exact Or.inr hPoint
      · exact Or.inl (hSpells.fractionDigits c hFraction)

end Spelled

/-
  What is read of a text that is trimmed already.  Digits are
  not taken for hexadecimal ones, and no minus stands before
  them.
-/
theorem number?_of_digits
    {s : String}
    {cs : List Char}
    (hTrim : (Text.trim s).toList = cs)
    (hDigits : ∀ c ∈ cs, c.isDigit = true ∨ c = '.') :
    number? s = decimal? cs := by
  have hOther :
      ∀ c ∈ cs, ∀ other : Char,
        other.isDigit = false → other ≠ '.' → c ≠ other := by
    rintro c hMember other hDigit hPoint rfl
    rcases hDigits c hMember with hHere | hHere
    · rw [hHere] at hDigit
      cases hDigit
    · exact hPoint hHere
  have hMinus : cs.head? ≠ some '-' := by
    intro hHead
    exact
      hOther '-' (List.mem_of_head? hHead) '-' (by decide)
        (by decide) rfl
  have hDrop : cs.dropWhile (· == '-') = cs := by
    cases cs with
    | nil => rfl
    | cons c cs =>
        apply List.dropWhile_cons_of_neg
        simpa using hMinus
  unfold number?
  rw [hTrim]
  split
  · exact
      absurd rfl
        (hOther 'x' (by simp) 'x' (by decide) (by decide))
  · exact
      absurd rfl
        (hOther 'X' (by simp) 'X' (by decide) (by decide))
  · dsimp only
    rw [hDrop]
    split
    · next x hRead =>
        rw [hRead, if_neg (by simpa using hMinus)]
    · next hRead => rw [hRead]

end Literal

end Devirt

------------------------------------------------------------
-- Whole Doubles
------------------------------------------------------------

namespace Devirt

namespace Decimal

open Double Float.Model Float.Model.UnpackedFloat

/- A double is read from its exact value. -/
theorem Binary.covers_self
    (b : Binary) :
    b.Covers (b.mantissa * 2 ^ b.exponent) := by
  have hUnit : (0 : ℚ) < 2 ^ b.exponent := zpow_pos (by norm_num) _
  have hReach : 0 < b.reach := by
    unfold Binary.reach
    split_ifs <;> norm_num
  have hLow :
      (b.mantissa - b.reach) * 2 ^ b.exponent <
        b.mantissa * 2 ^ b.exponent :=
    mul_lt_mul_of_pos_right (by linarith) hUnit
  have hHigh :
      (b.mantissa : ℚ) * 2 ^ b.exponent <
        (b.mantissa + 1 / 2) * 2 ^ b.exponent :=
    mul_lt_mul_of_pos_right (by linarith) hUnit
  exact ⟨hLow.le, hHigh.le, fun _ => ⟨hLow, hHigh⟩⟩

section Whole

variable {x : Float}

theorem IsMagnitude.abs_eq
    (hMagnitude : IsMagnitude x) :
    x.abs = x := by
  rcases hMagnitude.eq_zero_or_positive with rfl | hPositive
  · rfl
  · change Float.ofModel (pack x.toModel.unpack.abs) = x
    rw [hMagnitude.unpack_eq hPositive]
    exact
      pack_ofBits hMagnitude.sign
        (hMagnitude.proper hPositive).toFits hPositive

theorem IsMagnitude.not_neg
    (hMagnitude : IsMagnitude x) :
    ¬ x < 0 := by
  have hZero : (0 : Float).toModel.unpack = .zero .positive := rfl
  change ¬ Float.lt x 0 = true
  unfold Float.lt
  rw [decide_eq_true_eq]
  change ¬ x.toModel.unpack.lt (0 : Float).toModel.unpack = true
  rcases hMagnitude.eq_zero_or_positive with rfl | hPositive
  · decide
  · rw [hMagnitude.unpack_eq hPositive, hZero]
    simp [UnpackedFloat.lt, UnpackedFloat.compare]

/- A short natural number is the value of its double. -/
theorem IsMagnitude.ofNat_eq
    (hMagnitude : IsMagnitude x)
    {n : Nat}
    (hSmall : n < 2 ^ 53)
    (hSame : (n.toUInt64.toFloat == x) = true) :
    ofNat n = x := by
  change
    n.toUInt64.toFloat.toModel.unpack.beq x.toModel.unpack = true
    at hSame
  have hZero : (0 : Float).toModel.unpack = .zero .positive := rfl
  have hNothing :
      (0 : Nat).toUInt64.toFloat.toModel.unpack =
        .zero .positive := rfl
  rcases hMagnitude.eq_zero_or_positive with rfl | hPositive
  · rcases Nat.eq_zero_or_pos n with rfl | hSome
    · exact eq_of_toBits (by decide +kernel)
    · rcases unpack_toFloat hSome hSmall with ⟨_, hNumber, -⟩
      rw [hNumber, hZero] at hSame
      cases hSame
  · rw [hMagnitude.unpack_eq hPositive] at hSame
    rcases Nat.eq_zero_or_pos n with rfl | hSome
    · rw [hNothing] at hSame
      cases hSame
    · rcases unpack_small hSome hSmall with
        ⟨m, e, _, hNumber, hValue, -⟩
      rw [hNumber] at hSame
      have hOrder :
          (compare e (Binary.ofBits x.toBits).exponent).then
              (compare m (Binary.ofBits x.toBits).mantissa) =
            .eq := by
        simpa [UnpackedFloat.beq, UnpackedFloat.compare] using hSame
      rw [Ordering.then_eq_eq, Int.compare_eq_eq,
        Nat.compare_eq_eq] at hOrder
      rw [hOrder.1, hOrder.2] at hValue
      refine
        ofScaled_nearest hMagnitude.sign
          (hMagnitude.proper hPositive) hSome ?_
      rw [zpow_zero, mul_one, ← hValue]
      exact Binary.covers_self _

end Whole

end Decimal

end Devirt

------------------------------------------------------------
-- Readings
------------------------------------------------------------

namespace Devirt

namespace Literal

open Decimal

section Readings

variable {x : Float}

theorem not_isBlank_of_numeral
    {c : Char}
    (hDigit : c.isDigit = true ∨ c = '.') :
    Text.isBlank c = false := by
  rcases hDigit with hDigit | rfl
  · exact
      forall_ascii
        (motive := fun c =>
          c.isDigit = true → Text.isBlank c = false)
        (by decide +kernel)
        (ascii_of_isDigit hDigit) hDigit
  · decide

theorem number?_numeral
    {s : String}
    (hDigits : ∀ c ∈ s.toList, c.isDigit = true ∨ c = '.') :
    number? s = decimal? s.toList := by
  have hTrim :=
    Text.trim_ofList fun c hMember =>
      not_isBlank_of_numeral (hDigits c hMember)
  rw [String.ofList_toList] at hTrim
  exact number?_of_digits (congrArg String.toList hTrim) hDigits

/- A magnitude is read back from all its digits. -/
theorem number?_write
    (hMagnitude : IsMagnitude x) :
    number? (plain.write x) = some x := by
  rcases hMagnitude.write_spells with ⟨n, hText, hSpells⟩
  rw [number?_numeral, hText, decimal?_text hSpells,
    hMagnitude.ofScaled_eq hSpells.value]
  intro c hMember
  rw [hText] at hMember
  exact mem_text_of_spells hSpells hMember

theorem number?_natural
    (n : Nat) :
    number? (toString n) = some (ofNat n) := by
  have hText : (toString n).toList = Nat.toDigits 10 n := by
    simp
  have hDigits : ∀ c ∈ Nat.toDigits 10 n, c.isDigit = true :=
    fun c hMember =>
      Nat.isDigit_of_mem_toDigits (by decide) (by decide) hMember
  have hSome : Nat.toDigits 10 n ≠ [] := by
    rw [← List.length_pos_iff]
    exact Nat.length_toDigits_pos
  rw [number?_numeral, hText,
    decimal?_eq
      (fun c hMember =>
        (isDigit_eq c).trans (hDigits c hMember)) hSome]
  · congr 2
    exact Nat.ofDigitChars_ten_toDigits
  · rw [hText]
    exact fun c hMember => Or.inl (hDigits c hMember)

/- A magnitude is read back from its text in a name. -/
theorem number?_describe
    (hMagnitude : IsMagnitude x) :
    number? (Decimal.describe x) = some x := by
  unfold Decimal.describe
  split_ifs with hWhole
  · simp only [isExactWhole, hMagnitude.abs_eq, Bool.and_eq_true,
      decide_eq_true_eq] at hWhole
    rcases hWhole with ⟨hSmall, hSame⟩
    have hInteger : toInteger x = (x.toUInt64.toNat : Int) := by
      unfold toInteger
      exact if_neg hMagnitude.not_neg
    have hBound : x.toUInt64.toNat < 2 ^ 53 := by
      rw [UInt64.lt_iff_toNat_lt] at hSmall
      exact hSmall
    have hText :
        toString (toInteger x) = toString x.toUInt64.toNat := by
      rw [hInteger]
      rfl
    rw [hText, number?_natural, hMagnitude.ofNat_eq hBound]
    rw [Nat.toUInt64_eq, UInt64.ofNat_toNat]
    exact hSame
  · exact number?_write hMagnitude

end Readings

end Literal

end Devirt

------------------------------------------------------------
-- Numerals
------------------------------------------------------------

namespace Devirt

namespace Decimal

open Double Float.Model Float.Model.UnpackedFloat

/- The double of a numeral: a magnitude, or infinity. -/
def IsNumeral (x : Float) : Prop :=
  x.toBits.toNat ≤ 2047 * 2 ^ 52

instance (x : Float) : Decidable (IsNumeral x) :=
  inferInstanceAs (Decidable (_ ≤ _))

/- What is unpacked of the double of a numeral. -/
def IsUnsigned : UnpackedFloat → Prop
  | .zero .positive => True
  | .finite .positive _ _ _ => True
  | .infinity .positive => True
  | _ => False

theorem isUnsigned_round
    (m : Nat)
    (e : Int)
    (accuracy : Accuracy) :
    IsUnsigned
      (roundWithAccuracy Format.binary64 .positive m e
        accuracy) := by
  rw [round_eq]
  split_ifs <;> trivial

theorem isNumeral_pack
    {u : UnpackedFloat}
    (hUnsigned : IsUnsigned u) :
    IsNumeral (Float.ofModel (pack u)) := by
  change
    (UnpackedFloat.pack Format.binary64 u).toNat ≤ 2047 * 2 ^ 52
  cases u with
  | notANumber => cases hUnsigned
  | zero sign =>
      cases sign with
      | negative => cases hUnsigned
      | positive => decide
  | infinity sign =>
      cases sign with
      | negative => cases hUnsigned
      | positive => decide
  | finite sign m e hPositive =>
      cases sign with
      | negative => cases hUnsigned
      | positive =>
          unfold UnpackedFloat.pack
          dsimp only
          split_ifs with hLarge hNormal
          · decide
          · have hBiased : ¬ 2 ^ 11 ≤ (e + 1023 + 52).toNat + 1 :=
              hLarge
            have hRest := (BitVec.ofNat 52 m).isLt
            rw [toNat_packComponents, BitVec.toNat_ofNat]
            change
              (e + 1023 + 52).toNat % 2 ^ 11 * 2 ^ 52 +
                  (BitVec.ofNat 52 m).toNat ≤
                2047 * 2 ^ 52
            omega
          · have hRest := (BitVec.ofNat 52 m).isLt
            rw [toNat_packComponents]
            change
              0 * 2 ^ 52 + (BitVec.ofNat 52 m).toNat ≤ 2047 * 2 ^ 52
            omega

section Operations

variable {u : UnpackedFloat}
variable {m : Nat}
variable {e : Int}

theorem isUnsigned_mul
    (hUnsigned : IsUnsigned u)
    (hPositive : 0 < m) :
    IsUnsigned
      (UnpackedFloat.mul Format.binary64 u
        (.finite .positive m e hPositive)) := by
  cases u with
  | notANumber => cases hUnsigned
  | zero sign => cases sign <;> trivial
  | infinity sign => cases sign <;> trivial
  | finite sign n f hOther =>
      cases sign with
      | negative => cases hUnsigned
      | positive => exact isUnsigned_round _ _ _

theorem isUnsigned_div
    (hUnsigned : IsUnsigned u)
    (hPositive : 0 < m) :
    IsUnsigned
      (UnpackedFloat.div Format.binary64 u
        (.finite .positive m e hPositive)) := by
  cases u with
  | notANumber => cases hUnsigned
  | zero sign => cases sign <;> trivial
  | infinity sign => cases sign <;> trivial
  | finite sign n f hOther =>
      cases sign with
      | negative => cases hUnsigned
      | positive => exact isUnsigned_round _ _ _

end Operations

theorem isUnsigned_toFloat
    {n : Nat}
    (hSmall : n < 2 ^ 53) :
    IsUnsigned n.toUInt64.toFloat.toModel.unpack := by
  rcases Nat.eq_zero_or_pos n with rfl | hPositive
  · trivial
  · rcases unpack_small hPositive hSmall with ⟨_, _, _, hUnpack, -⟩
    rw [hUnpack]
    trivial

theorem isNumeral_ofScientific
    (s : Nat)
    (down : Bool)
    (n : Nat) :
    IsNumeral (Float.ofScientific s down n) := by
  rw [Float.ofScientific]
  by_cases hFast : s < 2 ^ 53 ∧ n ≤ 22
  · rw [dif_pos hFast]
    let i : Fin Float.exactlyRepresentablePowersOfTen.size :=
      ⟨n, Nat.lt_succ_of_le hFast.2⟩
    have hNumber := isUnsigned_toFloat hFast.1
    rcases unpack_power i with ⟨m, e, hM, hPower, -⟩
    dsimp only
    split_ifs
    · have hPacked := isNumeral_pack (isUnsigned_div (e := e) hNumber hM)
      rw [← hPower] at hPacked
      exact hPacked
    · have hPacked := isNumeral_pack (isUnsigned_mul (e := e) hNumber hM)
      rw [← hPower] at hPacked
      exact hPacked
  · rw [dif_neg hFast]
    apply isNumeral_pack
    generalize
      (if down = true then Int.negOfNat n else Int.ofNat n) = e
    unfold UnpackedFloat.ofScientific
    split_ifs
    · trivial
    · trivial
    · trivial
    · exact isUnsigned_round _ _ _
    · exact isUnsigned_round _ _ _

theorem isNumeral_ofScaled
    (s : Nat)
    (e : Int) :
    IsNumeral (ofScaled s e) := by
  unfold ofScaled
  dsimp only
  split_ifs
  · decide +kernel
  · decide +kernel
  · decide +kernel
  · exact isNumeral_ofScientific _ _ _
  · exact isNumeral_ofScientific _ _ _

theorem IsNumeral.cases
    {x : Float}
    (hNumeral : IsNumeral x) :
    IsMagnitude x ∨ x = 1.0 / 0.0 := by
  unfold IsNumeral at hNumeral
  rcases hNumeral.lt_or_eq with hLess | hLast
  · exact Or.inl hLess
  · right
    apply eq_of_toBits
    rw [hLast]
    decide +kernel

theorem describe_infinity :
    describe (1.0 / 0.0) = "inf" := by
  decide +kernel

/- Numerals are told apart by their texts in names. -/
theorem IsNumeral.describe_inj
    {x y : Float}
    (hLeft : IsNumeral x)
    (hRight : IsNumeral y)
    (hSame : describe x = describe y) :
    x = y := by
  have hNothing : Literal.number? "inf" = none := by
    decide +kernel
  rcases hLeft.cases with hLeft | rfl <;>
    rcases hRight.cases with hRight | rfl
  · have hRead := Literal.number?_describe hLeft
    rw [hSame, Literal.number?_describe hRight] at hRead
    exact (Option.some.inj hRead).symm
  · have hRead := Literal.number?_describe hLeft
    rw [hSame, describe_infinity, hNothing] at hRead
    cases hRead
  · have hRead := Literal.number?_describe hRight
    rw [← hSame, describe_infinity, hNothing] at hRead
    cases hRead
  · rfl

end Decimal

end Devirt

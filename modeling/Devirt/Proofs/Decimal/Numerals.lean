import Devirt.Proofs.Decimal.Shortest
import Devirt.Proofs.Json.Scalars

/-
  The parts of written doubles.

  However a style writes the digits of a double, the result has
  whole digits, a fraction and a power of ten, and all these
  digits together stand for the number that was written.

  Main declarations:
    * `Decimal.Numeral`, `Decimal.Numeral.text`
    * `Decimal.Numeral.Writes`
    * `Decimal.Style.IsReal`, `Decimal.Style.write_parts`
-/

------------------------------------------------------------
-- Numerals
------------------------------------------------------------

namespace Devirt

namespace Decimal

/- Whole digits, a fraction, and a power with its mark. -/
structure Numeral where
  whole : List Char
  fraction : List Char
  power : Option (List Char × Nat)

namespace Numeral

def pointText (n : Numeral) : List Char :=
  if n.fraction.isEmpty then [] else '.' :: n.fraction

def powerText (n : Numeral) : List Char :=
  match n.power with
  | none => []
  | some (mark, e) => 'e' :: (mark ++ Nat.toDigits 10 e)

def text (n : Numeral) : List Char :=
  n.whole ++ (n.pointText ++ n.powerText)

/- The power of ten that is written. -/
def powerValue (n : Numeral) : Int :=
  match n.power with
  | none => 0
  | some (mark, e) => if mark = ['-'] then -e else e

/- All digits as one number. -/
def significand (n : Numeral) : Nat :=
  natOfDigits (n.whole ++ n.fraction)

/- The power of ten that goes with all digits. -/
def exponent (n : Numeral) : Int :=
  n.powerValue - n.fraction.length

/-
  A numeral that stands for given digits, and is written so that
  every reader takes it for a double.
-/
structure Writes (n : Numeral) (d : Digits) : Prop where
  wholeDigits : ∀ c ∈ n.whole, c.isDigit = true
  fractionDigits : ∀ c ∈ n.fraction, c.isDigit = true
  lead :
    n.whole = ['0'] ∨ ∃ c cs, n.whole = c :: cs ∧ c ≠ '0'
  mark :
    ∀ p ∈ n.power, p.1 = ['-'] ∨ p.1 = ['+'] ∨ p.1 = []
  isReal : n.fraction ≠ [] ∨ n.power ≠ none
  small : n.significand < 2 ^ 64
  value :
    (n.significand : ℚ) * 10 ^ n.exponent =
      d.significand * 10 ^ d.exponent
  same :
    0 ≤ n.exponent →
      0 < d.significand ∧ n.significand = d.significand ∧
        n.exponent = d.exponent

/- Behind the whole digits stands a point or a power. -/
theorem Writes.follows
    {n : Numeral}
    {d : Digits}
    (hWrites : n.Writes d)
    (rest : List Char) :
    ∃ c cs,
      n.pointText ++ (n.powerText ++ rest) = c :: cs ∧
        (c = '.' ∨ c = 'e') := by
  unfold pointText
  split_ifs with hNone
  · rw [List.isEmpty_iff] at hNone
    have hPower := hWrites.isReal.resolve_left (by simp [hNone])
    unfold powerText
    split
    · next hOther => exact absurd hOther hPower
    · exact ⟨'e', _, rfl, Or.inr rfl⟩
  · exact ⟨'.', _, rfl, Or.inl rfl⟩

theorem Writes.begins
    {n : Numeral}
    {d : Digits}
    (hWrites : n.Writes d) :
    ∃ c cs, n.text = c :: cs ∧ c.isDigit = true := by
  have hDigits := hWrites.wholeDigits
  unfold text
  rcases hWrites.lead with hWhole | ⟨c, cs, hWhole, -⟩
  · rw [hWhole]
    exact ⟨'0', _, rfl, rfl⟩
  · rw [hWhole] at hDigits ⊢
    exact ⟨c, _, rfl, hDigits c (by simp)⟩

end Numeral

------------------------------------------------------------
-- Digits
------------------------------------------------------------

/- A run of like characters, and what stands behind it. -/
theorem takeWhile_run
    {p : Char → Bool}
    {run rest : List Char}
    (hRun : ∀ c ∈ run, p c = true)
    (hStops : ∀ c ∈ rest.head?, p c = false) :
    (run ++ rest).takeWhile p = run ∧
      (run ++ rest).dropWhile p = rest := by
  rw [List.takeWhile_append_of_pos hRun,
    List.dropWhile_append_of_pos hRun]
  cases rest with
  | nil => simp
  | cons c rest => simp [hStops c (by simp)]

/- Where a run ends is known from what stands behind it. -/
theorem run_append_inj
    {p : Char → Bool}
    {run run' rest rest' : List Char}
    (hSame : run ++ rest = run' ++ rest')
    (hRun : ∀ c ∈ run, p c = true)
    (hRun' : ∀ c ∈ run', p c = true)
    (hStops : ∀ c ∈ rest.head?, p c = false)
    (hStops' : ∀ c ∈ rest'.head?, p c = false) :
    run = run' ∧ rest = rest' := by
  have hLeft := takeWhile_run hRun hStops
  have hRight := takeWhile_run hRun' hStops'
  rw [hSame] at hLeft
  exact
    ⟨hLeft.1.symm.trans hRight.1, hLeft.2.symm.trans hRight.2⟩

theorem natOfDigits_append
    (ds es : List Char) :
    natOfDigits (ds ++ es) =
      10 ^ es.length * natOfDigits ds + natOfDigits es := by
  change
    Nat.ofDigitChars 10 (ds ++ es) 0 =
      10 ^ es.length * Nat.ofDigitChars 10 ds 0 +
        Nat.ofDigitChars 10 es 0
  rw [Nat.ofDigitChars_append,
    Nat.ofDigitChars_eq_ofDigitChars_zero]

theorem natOfDigits_zeros
    (n : Nat) :
    natOfDigits (List.replicate n '0') = 0 := by
  induction n with
  | zero => rfl
  | succ n ih =>
      rw [List.replicate_succ, ← List.singleton_append,
        natOfDigits_append, ih]
      simp [natOfDigits]

theorem natOfDigits_text
    (d : Digits) :
    natOfDigits d.text = d.significand :=
  Nat.ofDigitChars_ten_toDigits

theorem isDigit_text
    {d : Digits}
    {c : Char}
    (hDigit : c ∈ d.text) :
    c.isDigit = true :=
  Nat.isDigit_of_mem_toDigits (by decide) (by decide) hDigit

theorem text_length_pos
    (d : Digits) :
    0 < d.text.length :=
  Nat.length_toDigits_pos

end Decimal

end Devirt

------------------------------------------------------------
-- Writing
------------------------------------------------------------

namespace Devirt

namespace Decimal

section Parts

variable {d : Digits}

theorem text_lead
    (hPositive : 0 < d.significand) :
    ∃ c cs, d.text = c :: cs ∧ c ≠ '0' :=
  Json.exists_toDigits_cons hPositive

/- All digits of the number in the same order. -/
theorem Numeral.writes_of_same
    {n : Numeral}
    (hWhole : ∀ c ∈ n.whole, c.isDigit = true)
    (hFraction : ∀ c ∈ n.fraction, c.isDigit = true)
    (hLead :
      n.whole = ['0'] ∨ ∃ c cs, n.whole = c :: cs ∧ c ≠ '0')
    (hMark :
      ∀ p ∈ n.power, p.1 = ['-'] ∨ p.1 = ['+'] ∨ p.1 = [])
    (hReal : n.fraction ≠ [] ∨ n.power ≠ none)
    (hPositive : 0 < d.significand)
    (hSmall : d.significand < 2 ^ 64)
    (hSignificand : n.significand = d.significand)
    (hExponent : n.exponent = d.exponent) :
    n.Writes d where
  wholeDigits := hWhole
  fractionDigits := hFraction
  lead := hLead
  mark := hMark
  isReal := hReal
  small := hSignificand ▸ hSmall
  value := by rw [hSignificand, hExponent]
  same := fun _ => ⟨hPositive, hSignificand, hExponent⟩

/- The point stands before all digits. -/
theorem Numeral.writes_before
    (hPositive : 0 < d.significand)
    (hSmall : d.significand < 2 ^ 64)
    (hPoint : d.point ≤ 0) :
    Numeral.Writes
      ⟨['0'], List.replicate (-d.point).toNat '0' ++ d.text, none⟩
      d := by
  have hLength := text_length_pos d
  apply writes_of_same
  · simp
  · intro c hMember
    rcases List.mem_append.mp hMember with hZero | hDigit
    · rw [List.eq_of_mem_replicate hZero]
      rfl
    · exact isDigit_text hDigit
  · exact Or.inl rfl
  · simp
  · left
    simp
    intro _ hNone
    simp [hNone] at hLength
  · exact hPositive
  · exact hSmall
  · change
      natOfDigits
        (['0'] ++ (List.replicate (-d.point).toNat '0' ++ d.text)) =
        d.significand
    rw [natOfDigits_append, natOfDigits_append, natOfDigits_zeros,
      natOfDigits_text]
    simp [natOfDigits]
  · simp only [exponent, powerValue, List.length_append,
      List.length_replicate]
    unfold Digits.point at hPoint ⊢
    omega

/- The point stands behind one of the digits. -/
theorem Numeral.writes_among
    (n : Nat)
    (power : Option (List Char × Nat))
    (hPositive : 0 < d.significand)
    (hSmall : d.significand < 2 ^ 64)
    (hFirst : 0 < n)
    (hMark :
      ∀ p ∈ power, p.1 = ['-'] ∨ p.1 = ['+'] ∨ p.1 = [])
    (hReal : n < d.text.length ∨ power ≠ none)
    (hExponent :
      Numeral.exponent ⟨d.text.take n, d.text.drop n, power⟩ =
        d.exponent) :
    Numeral.Writes ⟨d.text.take n, d.text.drop n, power⟩ d := by
  apply writes_of_same
  · intro c hMember
    exact isDigit_text (List.mem_of_mem_take hMember)
  · intro c hMember
    exact isDigit_text (List.mem_of_mem_drop hMember)
  · right
    rcases text_lead hPositive with ⟨c, cs, hText, hLead⟩
    refine ⟨c, cs.take (n - 1), ?_, hLead⟩
    dsimp only
    rw [hText, ← List.take_succ_cons]
    congr 1
    omega
  · exact hMark
  · exact hReal.imp_left (by simp)
  · exact hPositive
  · exact hSmall
  · rw [significand, List.take_append_drop, natOfDigits_text]
  · exact hExponent

/- The point stands behind all digits and some zeros. -/
theorem Numeral.writes_behind
    {n : Nat}
    (hPositive : 0 < d.significand)
    (hPoint : d.point = n)
    (hMost : n ≤ 16)
    (hLength : d.text.length ≤ n) :
    Numeral.Writes
      ⟨d.text ++ List.replicate (n - d.text.length) '0', ['0'],
        none⟩ d := by
  have hExponent : d.exponent = (n - d.text.length : Nat) := by
    unfold Digits.point at hPoint
    omega
  have hSignificand :
      significand
          ⟨d.text ++ List.replicate (n - d.text.length) '0', ['0'],
            none⟩ =
        10 * (10 ^ (n - d.text.length) * d.significand) := by
    rw [significand, natOfDigits_append, natOfDigits_append,
      natOfDigits_zeros, natOfDigits_text]
    simp [natOfDigits]
  have hNegative :
      exponent
          ⟨d.text ++ List.replicate (n - d.text.length) '0', ['0'],
            none⟩ =
        -1 := rfl
  constructor
  · intro c hMember
    rcases List.mem_append.mp hMember with hDigit | hZero
    · exact isDigit_text hDigit
    · rw [List.eq_of_mem_replicate hZero]
      rfl
  · simp
  · right
    rcases text_lead hPositive with ⟨c, cs, hText, hLead⟩
    dsimp only
    rw [hText]
    exact ⟨c, _, rfl, hLead⟩
  · simp
  · simp
  · rw [hSignificand]
    have hDigits : d.significand < 10 ^ d.text.length :=
      (Nat.length_toDigits_le_iff (by decide)
        (text_length_pos d)).mp (Nat.le_refl _)
    have hAll :
        10 ^ (n - d.text.length) * d.significand < 10 ^ n := by
      calc
        10 ^ (n - d.text.length) * d.significand <
            10 ^ (n - d.text.length) * 10 ^ d.text.length := by
          gcongr
        _ = 10 ^ n := by
          rw [← Nat.pow_add]
          congr 1
          omega
    have hPower : 10 ^ n ≤ 10 ^ 16 :=
      Nat.pow_le_pow_right (by decide) hMost
    omega
  · rw [hSignificand, hNegative, hExponent, zpow_natCast]
    push_cast
    rw [zpow_neg_one]
    ring
  · rw [hNegative]
    omega

end Parts

namespace Style

/- A whole double keeps a fraction and is not written far. -/
structure IsReal (style : Style) : Prop where
  keeps : style.keepFraction = true
  most : style.most ≤ 16

theorem positional_parts
    {style : Style}
    {d : Digits}
    (hStyle : style.IsReal)
    (hPositive : 0 < d.significand)
    (hSmall : d.significand < 2 ^ 64)
    (hPoint : d.point ≤ style.most) :
    ∃ n : Numeral,
      style.positional d.text d.point = n.text ∧ n.Writes d := by
  have hMost := hStyle.most
  simp only [positional, hStyle.keeps, if_true]
  split_ifs with hBefore hBehind
  · refine ⟨_, ?_, Numeral.writes_before hPositive hSmall hBefore⟩
    have hDigits := text_length_pos d
    simp only [Numeral.text, Numeral.pointText, Numeral.powerText]
    rw [if_neg]
    · simp
    · simp
      intro _ hNone
      simp [hNone] at hDigits
  · refine
      ⟨_, ?_,
        Numeral.writes_behind hPositive
          (Int.toNat_of_nonneg (by omega)).symm (by omega) hBehind⟩
    simp [Numeral.text, Numeral.pointText, Numeral.powerText]
  · refine
      ⟨_, ?_,
        Numeral.writes_among d.point.toNat none hPositive hSmall
          (by omega) (by simp) (Or.inl (by omega)) ?_⟩
    · simp only [Numeral.text, Numeral.pointText, Numeral.powerText]
      rw [if_neg]
      · simp
      · simp
        omega
    · simp only [Numeral.exponent, Numeral.powerValue,
        List.length_drop]
      unfold Digits.point at hBefore hBehind ⊢
      omega

theorem scientific_parts
    {style : Style}
    {d : Digits}
    (hPositive : 0 < d.significand)
    (hSmall : d.significand < 2 ^ 64) :
    ∃ n : Numeral,
      style.scientific d.text d.point = n.text ∧ n.Writes d := by
  have hDigits := text_length_pos d
  let mark : List Char :=
    if d.point - 1 < 0 then ['-']
    else if style.plusExponent then ['+'] else []
  refine
    ⟨_, ?_,
      Numeral.writes_among 1
        (some (mark, (d.point - 1).natAbs)) hPositive hSmall
        (by decide) ?_ (Or.inr (by simp)) ?_⟩
  · simp only [scientific, Numeral.text, Numeral.pointText,
      Numeral.powerText, List.isEmpty_iff, List.drop_eq_nil_iff,
      List.append_assoc]
    rfl
  · intro p hPower
    cases hPower
    dsimp only [mark]
    split_ifs <;> simp
  · have hMark : mark = ['-'] ↔ d.point - 1 < 0 := by
      dsimp only [mark]
      split_ifs with hNegative <;> simp [hNegative]
    simp only [Numeral.exponent, Numeral.powerValue,
      List.length_drop, hMark]
    unfold Digits.point
    split_ifs <;> omega

theorem writeDigits_parts
    {style : Style}
    {d : Digits}
    (hStyle : style.IsReal)
    (hSmall : d.significand < 2 ^ 64) :
    ∃ n : Numeral, style.writeDigits d = n.text ∧ n.Writes d := by
  unfold writeDigits
  split_ifs with hZero hKeep hPositional
  · refine ⟨⟨['0'], ['0'], none⟩, rfl, ?_⟩
    constructor
    · simp
    · simp
    · exact Or.inl rfl
    · simp
    · simp
    · decide
    · rw [hZero]
      simp [Numeral.significand, natOfDigits]
    · intro hUp
      exact absurd hUp (by decide)
  · exact absurd hStyle.keeps hKeep
  · exact
      positional_parts hStyle (Nat.pos_of_ne_zero hZero) hSmall
        hPositional.2
  · exact scientific_parts (Nat.pos_of_ne_zero hZero) hSmall

/- A finite double is written as a numeral behind its sign. -/
theorem write_parts
    {style : Style}
    {x : Float}
    (hStyle : style.IsReal)
    (hNumber : x.isNaN = false)
    (hFinite : x.isInf = false) :
    ∃ (minus : Bool) (n : Numeral) (d : Digits),
      (style.write x).toList =
          (if minus then ['-'] else []) ++ n.text ∧
        n.Writes d ∧ d.Finite := by
  have hDigits := shortest_finite hNumber hFinite
  rcases writeDigits_parts hStyle hDigits.small with
    ⟨n, hText, hWrites⟩
  refine
    ⟨x.toBits ≥ 0x8000000000000000 && (x != 0 || style.signedZero),
      n, shortest x, ?_, hWrites, hDigits⟩
  simp only [write, hNumber, hFinite, Bool.false_eq_true, if_false,
    hText]
  split_ifs <;> simp

end Style

end Decimal

end Devirt

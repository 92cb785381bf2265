import Devirt.Pattern.Basic
import Devirt.Proofs.Decimal.Numerals
import Devirt.Script.Token

/-
  How numerals are read.

  A numeral is read up to its end, where no word goes on.  A
  hexadecimal one ends with its digits; a decimal one goes on
  with a dot.  A zero in front of further digits makes the
  numeral octal, if its digits allow it.  In the end nothing
  may follow that begins a name, whatever the numeral was.

  Main declarations:
    * `Script.Lexer.NoWordAhead`, `Script.Lexer.digitRun_append`
    * `Script.Lexer.number?_hex`, `Script.Lexer.number?_plain`,
      `Script.Lexer.number?_legacy`
    * `Script.Lexer.afterWhole_end`,
      `Script.Lexer.length_afterWhole`
-/

------------------------------------------------------------
-- Digits
------------------------------------------------------------

namespace Devirt

open Pattern

/- What holds of 128 numbers holds of ASCII characters. -/
theorem forall_ascii
    {motive : Char → Prop}
    (hAll : ∀ n < 128, motive (Char.ofNat n))
    {c : Char}
    (hAscii : c.toNat < 128) :
    motive c := by
  have hHere := hAll c.toNat hAscii
  rwa [Char.ofNat_toNat] at hHere

theorem ascii_of_isHex
    {c : Char}
    (hHex : isHex c = true) :
    c.toNat < 128 := by
  simp only [isHex, Bool.or_eq_true, Bool.and_eq_true,
    decide_eq_true_eq, Char.le_def, UInt32.le_iff_toNat_le]
    at hHex
  simp at hHex
  omega

theorem ascii_of_isDigit
    {c : Char}
    (hDigit : c.isDigit = true) :
    c.toNat < 128 := by
  rw [Char.isDigit_iff_toNat] at hDigit
  have hLast : '9'.toNat = 57 := rfl
  omega

namespace Script

namespace Lexer

open Pattern

/- No ASCII character of a word comes next. -/
def NoWordAhead (rest : List Char) : Prop :=
  ∀ c ∈ rest.head?, c.toNat < 128 → Text.isWord c = false

theorem NoWordAhead.ne
    {rest : List Char}
    {c d : Char}
    (hRest : NoWordAhead rest)
    (hHead : rest.head? = some c)
    (hAscii : d.toNat < 128)
    (hWord : Text.isWord d = true) :
    c ≠ d := by
  rintro rfl
  rw [hRest c hHead hAscii] at hWord
  cases hWord

theorem digitRun_cons
    {digit : Char → Bool}
    {c : Char}
    (done cs : List Char)
    (hJoint : c ≠ '_') :
    digitRun digit done (c :: cs) =
      if digit c then digitRun digit (c :: done) cs
      else some (done.reverse, c :: cs) := by
  rw [digitRun]
  · exact fun _ _ hSame _ => hJoint hSame
  · exact fun hSame _ => hJoint hSame

/- Digits are read up to what is neither one nor joins two. -/
theorem digitRun_append
    {digit : Char → Bool}
    {digits rest : List Char}
    (done : List Char)
    (hDigits : ∀ c ∈ digits, digit c = true ∧ c ≠ '_')
    (hRest : ∀ c ∈ rest.head?, digit c = false ∧ c ≠ '_') :
    digitRun digit done (digits ++ rest) =
      some (done.reverse ++ digits, rest) := by
  induction digits generalizing done with
  | nil =>
      cases rest with
      | nil => simp [digitRun]
      | cons c rest =>
          rcases hRest c rfl with ⟨hNone, hJoint⟩
          simp [digitRun_cons _ _ hJoint, hNone]
  | cons d digits ih =>
      rcases List.forall_mem_cons.mp hDigits with
        ⟨⟨hDigit, hJoint⟩, hLater⟩
      rw [List.cons_append, digitRun_cons _ _ hJoint,
        if_pos hDigit, ih (d :: done) hLater]
      simp

/- Digits are words of ASCII characters. -/
theorem word_of_isHex
    {c : Char}
    (hHex : isHex c = true) :
    c.toNat < 128 ∧ Text.isWord c = true ∧ c ≠ '_' := by
  have hAscii := ascii_of_isHex hHex
  refine ⟨hAscii, ?_⟩
  exact
    forall_ascii
      (motive := fun c =>
        isHex c = true → Text.isWord c = true ∧ c ≠ '_')
      (by decide +kernel) hAscii hHex

theorem isHex_of_isDigit
    {c : Char}
    (hDigit : isDigit c = true) :
    isHex c = true := by
  unfold isDigit at hDigit
  simp [isHex, hDigit]

/- The digits of hexadecimal numerals. -/
theorem digit_eq_isHex
    (c : Char) :
    (match Literal.hexValue? c with
      | some d => decide (d < 16)
      | none => false) = isHex c := by
  cases hHex : isHex c with
  | true =>
      exact
        forall_ascii
          (motive := fun c =>
            isHex c = true →
              (match Literal.hexValue? c with
                | some d => decide (d < 16)
                | none => false) = true)
          (by decide +kernel) (ascii_of_isHex hHex) hHex
  | false =>
      simp only [isHex, Bool.or_eq_false_iff] at hHex
      simp only [Literal.hexValue?, hHex, Bool.false_eq_true,
        if_false]

theorem digitRun_congr
    {p q : Char → Bool}
    (hSame : ∀ c, p c = q c)
    (done cs : List Char) :
    digitRun p done cs = digitRun q done cs := by
  rw [funext hSame]

/- What ends a word ends digits. -/
theorem NoWordAhead.endsDigits
    {digit : Char → Bool}
    {rest : List Char}
    (hRest : NoWordAhead rest)
    (hDigit : ∀ c, digit c = true → isHex c = true) :
    ∀ c ∈ rest.head?, digit c = false ∧ c ≠ '_' := by
  intro c hHead
  refine ⟨?_, hRest.ne hHead (by decide) (by decide)⟩
  rw [Bool.eq_false_iff]
  intro hHere
  rcases word_of_isHex (hDigit c hHere) with ⟨hAscii, hWord, -⟩
  rw [hRest c hHead hAscii] at hWord
  cases hWord

------------------------------------------------------------
-- Numerals
------------------------------------------------------------

/- A hexadecimal numeral ends with its digits. -/
theorem number?_hex
    {mark : Char}
    {digits rest : List Char}
    (hMark : mark ∈ ['x', 'X'])
    (hDigits : ∀ c ∈ digits, isHex c = true)
    (hSome : digits ≠ [])
    (hRest : NoWordAhead rest) :
    number? ('0' :: mark :: (digits ++ rest)) =
      closeNumber
        (.number (Decimal.ofNat (natOfHex digits)) false) rest := by
  have hBased :
      number? ('0' :: mark :: (digits ++ rest)) =
        basedNumber 16 (digits ++ rest) := by
    rcases List.mem_pair.mp hMark with rfl | rfl <;> rfl
  have hRun :
      digitRun isHex [] (digits ++ rest) = some (digits, rest) :=
    digitRun_append []
      (fun c hMember =>
        ⟨hDigits c hMember,
          (word_of_isHex (hDigits c hMember)).2.2⟩)
      (hRest.endsDigits fun _ hHex => hHex)
  rw [hBased]
  unfold basedNumber
  dsimp only
  rw [digitRun_congr (q := isHex) ?_, hRun]
  · cases rest with
    | nil => simp [hSome, natOfBase, natOfHex]
    | cons c cs =>
        have hBig : c ≠ 'n' :=
          hRest.ne rfl (by decide) (by decide)
        simp [hSome, hBig, natOfBase, natOfHex]
  · exact digit_eq_isHex

/- Decimal digits are read up to the end of the word. -/
theorem digitRun_isDigit
    {digits rest : List Char}
    (hDigits : ∀ c ∈ digits, isDigit c = true)
    (hRest : NoWordAhead rest) :
    digitRun isDigit [] (digits ++ rest) = some (digits, rest) := by
  refine digitRun_append [] ?_ (hRest.endsDigits ?_)
  · intro c hMember
    have hHex := isHex_of_isDigit (hDigits c hMember)
    exact ⟨hDigits c hMember, (word_of_isHex hHex).2.2⟩
  · exact fun c hDigit => isHex_of_isDigit hDigit

/- A decimal numeral goes on behind its whole digits. -/
theorem number?_plain
    {digits rest : List Char}
    (hDigits : ∀ c ∈ digits, isDigit c = true)
    (hLead : digits = ['0'] ∨ ∃ d ds, digits = d :: ds ∧ d ≠ '0')
    (hRest : NoWordAhead rest) :
    number? (digits ++ rest) = afterWhole digits false rest := by
  rcases hLead with rfl | ⟨d, ds, rfl, hFirst⟩
  · cases rest with
    | nil => rfl
    | cons c cs =>
        have hOther :
            ∀ d, d.toNat < 128 → Text.isWord d = true → c ≠ d :=
          fun d hAscii hWord => hRest.ne rfl hAscii hWord
        have hDigit : isDigit c = false :=
          (hRest.endsDigits (fun d hDigit =>
            isHex_of_isDigit hDigit) c rfl).1
        simp [number?, hDigit, hOther 'x' (by decide) (by decide),
          hOther 'X' (by decide) (by decide),
          hOther 'o' (by decide) (by decide),
          hOther 'O' (by decide) (by decide),
          hOther 'b' (by decide) (by decide),
          hOther 'B' (by decide) (by decide),
          hOther 'n' (by decide) (by decide),
          hOther '_' (by decide) (by decide)]
  · have hRun := digitRun_isDigit hDigits hRest
    have hDot : d ≠ '.' := by
      rintro rfl
      exact absurd (hDigits '.' List.mem_cons_self) (by decide)
    rw [List.cons_append] at hRun ⊢
    rw [number?, hRun]
    · cases rest with
      | nil => rfl
      | cons c cs =>
          have hBig : c ≠ 'n' :=
            hRest.ne rfl (by decide) (by decide)
          simp [hBig]
    · exact fun _ _ hSame => hFirst (List.cons.inj hSame).1
    · exact fun _ hSame => hDot (List.cons.inj hSame).1

/- A numeral with a zero too many is octal if it can be. -/
theorem number?_legacy
    {digits rest : List Char}
    (hDigits : ∀ c ∈ digits, isDigit c = true)
    (hSome : digits ≠ [])
    (hRest : NoWordAhead rest) :
    number? ('0' :: (digits ++ rest)) =
      if digits.all fun c => (octalValue? c).isSome then
        closeNumber
          (.number (Decimal.ofNat (natOfBase 8 digits)) true) rest
      else
        afterWhole digits true rest := by
  have hRun :=
    Decimal.takeWhile_run hDigits fun c hHead =>
      (hRest.endsDigits (fun d hDigit =>
        isHex_of_isDigit hDigit) c hHead).1
  have hLegacy :
      number? ('0' :: (digits ++ rest)) =
        legacyNumber (digits ++ rest) := by
    rcases List.exists_cons_of_ne_nil hSome with ⟨d, ds, rfl⟩
    have hOther :
        ∀ c, isDigit c = false → d ≠ c := by
      rintro c hNone rfl
      rw [hDigits d List.mem_cons_self] at hNone
      cases hNone
    simp [number?, hDigits d List.mem_cons_self,
      hOther 'x' (by decide), hOther 'X' (by decide),
      hOther 'o' (by decide), hOther 'O' (by decide),
      hOther 'b' (by decide), hOther 'B' (by decide)]
  rw [hLegacy, legacyNumber, hRun.1, hRun.2]

/- Without a dot, a decimal numeral ends with its digits. -/
theorem afterWhole_end
    {digits rest : List Char}
    (isLegacy : Bool)
    (hRest : NoWordAhead rest)
    (hDot : rest.head? ≠ some '.') :
    afterWhole digits isLegacy rest =
      closeNumber
        (.number (Decimal.ofNat (Decimal.natOfDigits digits))
          isLegacy) rest := by
  have hValue :
      Decimal.ofNumeral digits [] 0 =
        Decimal.ofNat (Decimal.natOfDigits digits) := by
    simp [Decimal.ofNumeral, Decimal.ofNat]
  cases rest with
  | nil => simp [afterWhole, exponentPart, hValue]
  | cons c cs =>
      have hPoint : c ≠ '.' := by
        rintro rfl
        exact hDot rfl
      have hSmall : c ≠ 'e' := hRest.ne rfl (by decide) (by decide)
      have hLarge : c ≠ 'E' := hRest.ne rfl (by decide) (by decide)
      simp [afterWhole, exponentPart, hPoint, hSmall, hLarge,
        hValue]

theorem length_digitRun
    {digit : Char → Bool}
    {done cs digits rest : List Char}
    (hRun : digitRun digit done cs = some (digits, rest)) :
    rest.length ≤ cs.length := by
  fun_induction digitRun digit done cs with
  | case1 done c cs hDigit ih =>
      have hShorter := ih hRun
      simp only [List.length_cons]
      omega
  | case2 => cases hRun
  | case3 => cases hRun
  | case4 done c cs _ _ hDigit ih =>
      have hShorter := ih hRun
      simp only [List.length_cons]
      omega
  | case5 =>
      cases hRun
      exact Nat.le_refl _
  | case6 =>
      cases hRun
      exact Nat.le_refl _

theorem length_exponentPart
    {cs rest : List Char}
    {power : Int}
    (hPart : exponentPart cs = some (power, rest)) :
    rest.length ≤ cs.length := by
  cases cs with
  | nil =>
      cases hPart
      exact Nat.le_refl _
  | cons c cs =>
      dsimp only [exponentPart] at hPart
      by_cases hLetter : (c == 'e' || c == 'E') = true
      · rw [if_pos hLetter] at hPart
        rcases Option.bind_eq_some_iff.mp hPart with
          ⟨⟨digits, behind⟩, hRun, hClose⟩
        have hShorter := length_digitRun hRun
        have hSame : rest = behind := by
          dsimp only at hClose
          split at hClose
          · cases hClose
          · cases hClose
            rfl
        rw [hSame]
        refine Nat.le_trans hShorter (Nat.le_trans ?_ (Nat.le_succ _))
        -- a sign is one character less
        split <;> simp
      · rw [if_neg hLetter] at hPart
        cases hPart
        exact Nat.le_refl _

/- A dot is never left behind a decimal numeral. -/
theorem length_afterWhole
    {digits cs rest : List Char}
    {isLegacy : Bool}
    {token : Token}
    (hRead :
      afterWhole digits isLegacy ('.' :: cs) =
        some (token, rest)) :
    rest.length < ('.' :: cs).length := by
  unfold afterWhole at hRead
  rcases Option.bind_eq_some_iff.mp hRead with
    ⟨⟨fraction, behind⟩, hFraction, hLater⟩
  rcases Option.bind_eq_some_iff.mp hLater with
    ⟨⟨power, last⟩, hPower, hClose⟩
  have hFirst := length_digitRun hFraction
  have hSecond := length_exponentPart hPower
  dsimp only [closeNumber] at hClose
  split_ifs at hClose
  cases hClose
  rw [List.length_cons]
  omega

end Lexer

end Script

end Devirt

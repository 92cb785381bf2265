import Devirt.Json.Printer
import Devirt.Json.Reader
import Mathlib.Tactic.Common

/-
  Texts and whole numbers read back as they were written.

  A text is written between quotes, with escapes for quotes,
  backslashes and control characters; the reader undoes each
  escape, so any text comes back.  A whole number is written
  by its digits.  It comes back if it fits in sixty-four bits
  and what follows cannot be part of a number.

  Any string or number that is read can be passed over instead,
  which ends at the same place.

  Main declarations:
    * `Json.Ends`, what may follow a number
    * `Json.readString_quote`
    * `Json.Number.IsWhole`
    * `Json.readNumber_whole`
    * `Json.skipString_of_stringBody`
    * `Json.skipNumber_of_readNumber`
-/

------------------------------------------------------------
-- Texts
------------------------------------------------------------

namespace Devirt

namespace Json

theorem hexDigit?_hexChar
    {n : Nat}
    (hDigit : n < 16) :
    hexDigit? (hexChar n) = some n := by
  revert n
  decide

/- A control character is named by two digits. -/
theorem unicodeEscape_control
    {n : Nat}
    (rest : List Char)
    (hControl : n < 0x20) :
    unicodeEscape
        ('0' :: '0' :: hexChar (n / 16) :: hexChar (n % 16) ::
          rest) =
      some (Char.ofNat n, rest) := by
  have hZero : hexDigit? '0' = some 0 := by decide
  have hHigh := hexDigit?_hexChar (n := n / 16) (by omega)
  have hLow := hexDigit?_hexChar (n := n % 16) (by omega)
  have hCode : n / 16 * 16 + n % 16 = n := by omega
  have hNoHigh : ¬ 0xD800 ≤ n := by omega
  have hNoLow : ¬ 0xDC00 ≤ n := by omega
  simp [unicodeEscape, fourHex, hZero, hHigh, hLow, hCode,
    hNoHigh, hNoLow]

/- However a character is written, it is read in one step. -/
theorem stringBody_escapeChar
    (fuel : Nat)
    (done : List Char)
    (c : Char)
    (rest : List Char) :
    stringBody (fuel + 1) done (escapeChar c ++ rest) =
      stringBody fuel (c :: done) rest := by
  unfold escapeChar
  simp only [beq_iff_eq]
  split_ifs with hQuote hSlash hFeed hReturn hTab hBack hForm
    hControl
  · subst hQuote
    rfl
  · subst hSlash
    rfl
  · subst hFeed
    rfl
  · subst hReturn
    rfl
  · subst hTab
    rfl
  · subst hBack
    rfl
  · subst hForm
    rfl
  · have hEscape := unicodeEscape_control rest hControl
    rw [Char.ofNat_toNat] at hEscape
    simp [stringBody, escape, hEscape]
  · simp [stringBody, hQuote, hSlash, hControl]

theorem stringBody_escaped
    {fuel : Nat}
    (done cs rest : List Char)
    (hFuel : cs.length < fuel) :
    stringBody fuel done
        (cs.flatMap escapeChar ++ '"' :: rest) =
      some (String.ofList (done.reverse ++ cs), rest) := by
  induction cs generalizing fuel done with
  | nil =>
      cases fuel with
      | zero => simp at hFuel
      | succ fuel => simp [stringBody]
  | cons c cs ih =>
      cases fuel with
      | zero => simp at hFuel
      | succ fuel =>
          have hRest :=
            ih (c :: done) (Nat.lt_of_succ_lt_succ hFuel)
          rw [List.flatMap_cons, List.append_assoc,
            stringBody_escapeChar, hRest]
          simp

/- No character is written by nothing. -/
theorem length_le_escaped
    (cs : List Char) :
    cs.length ≤ (cs.flatMap escapeChar).length := by
  induction cs with
  | nil => simp
  | cons c cs ih =>
      have hWritten : 1 ≤ (escapeChar c).length := by
        unfold escapeChar
        split_ifs <;> simp
      rw [List.flatMap_cons, List.length_append,
        List.length_cons]
      omega

theorem toList_quote
    (s : String) :
    (quote s).toList =
      '"' :: (s.toList.flatMap escapeChar ++ ['"']) := by
  simp [quote]

/- A quoted text is read as the text. -/
theorem readString_quote
    (s : String)
    (rest : List Char) :
    readString ((quote s).toList ++ rest) = some (s, rest) := by
  have hFuel := length_le_escaped s.toList
  simp only [toList_quote, List.cons_append, List.append_assoc,
    List.nil_append, readString]
  rw [stringBody_escaped]
  · simp
  · simp only [List.length_append, List.length_cons]
    omega

end Json

end Devirt

------------------------------------------------------------
-- Whole Numbers
------------------------------------------------------------

namespace Devirt

namespace Json

/- What may follow a number without being part of it. -/
def Ends (rest : List Char) : Prop :=
  ∀ c ∈ rest.head?,
    isDigit c = false ∧ c ≠ '.' ∧ c ≠ 'e' ∧ c ≠ 'E'

theorem ends_nil : Ends [] := by
  intro c hFirst
  simp at hFirst

theorem ends_cons
    {c : Char}
    (rest : List Char)
    (hOther :
      isDigit c = false ∧ c ≠ '.' ∧ c ≠ 'e' ∧ c ≠ 'E') :
    Ends (c :: rest) := by
  intro d hFirst
  simp only [List.head?_cons, Option.mem_some] at hFirst
  exact hFirst ▸ hOther

theorem isDigit_toDigits
    {n : Nat}
    {c : Char}
    (hDigit : c ∈ Nat.toDigits 10 n) :
    isDigit c = true :=
  Nat.isDigit_of_mem_toDigits (by decide) (by decide) hDigit

/- More digits make no number smaller. -/
theorem le_ofDigitChars
    (ds : List Char)
    (significand : Nat) :
    significand ≤ Nat.ofDigitChars 10 ds significand := by
  rw [Nat.ofDigitChars_eq_ofDigitChars_zero]
  have hPower : 1 ≤ 10 ^ ds.length := Nat.one_le_pow _ _ (by decide)
  have hScaled :=
    Nat.mul_le_mul_right significand hPower
  omega

/- Digits are taken as long as their number is small enough. -/
theorem takeSignificand_digits
    {ds rest : List Char}
    (significand count : Nat)
    (hDigits : ∀ c ∈ ds, isDigit c = true)
    (hSmall :
      Nat.ofDigitChars 10 ds significand < Number.naturalBound)
    (hStops : ∀ c ∈ rest.head?, isDigit c = false) :
    takeSignificand significand count (ds ++ rest) =
      (Nat.ofDigitChars 10 ds significand, count + ds.length,
        rest) := by
  induction ds generalizing significand count with
  | nil =>
      cases rest with
      | nil => simp [takeSignificand]
      | cons c rest =>
          have hOther := hStops c (by simp)
          simp [takeSignificand, hOther]
  | cons d ds ih =>
      have hFirst : isDigit d = true := hDigits d (by simp)
      rw [Nat.ofDigitChars_cons] at hSmall ⊢
      have hFits :
          10 * significand + digitValue d <
            Number.naturalBound :=
        Nat.lt_of_le_of_lt (le_ofDigitChars ds _) hSmall
      have hRest :=
        ih _ (count + 1)
          (fun c hMember => hDigits c (by simp [hMember])) hSmall
      simp only [List.cons_append, takeSignificand, hFirst,
        Bool.true_and, decide_eq_true_eq, if_pos hFits,
        List.length_cons]
      rw [show count + (ds.length + 1) = count + 1 + ds.length
        by omega]
      exact hRest

theorem digitChar_ne_zero
    {n : Nat}
    (hDigit : n < 10)
    (hPos : 0 < n) :
    n.digitChar ≠ '0' := by
  revert n
  decide

/- The digits of a positive number do not begin with zero. -/
theorem exists_toDigits_cons
    {n : Nat}
    (hPos : 0 < n) :
    ∃ d ds, Nat.toDigits 10 n = d :: ds ∧ d ≠ '0' := by
  induction n using Nat.strongRecOn with
  | ind n ih =>
      by_cases hSmall : n < 10
      · exact ⟨n.digitChar, [], Nat.toDigits_of_lt_base hSmall,
          digitChar_ne_zero hSmall hPos⟩
      · rcases ih (n / 10) (by omega) (by omega) with
          ⟨d, ds, hDigits, hFirst⟩
        refine ⟨d, ds ++ [(n % 10).digitChar], ?_, hFirst⟩
        rw [Nat.toDigits_of_base_le (by decide) (by omega),
          hDigits]
        rfl

theorem unsignedNumber_zero
    {rest : List Char}
    (negative : Bool)
    (hEnds : Ends rest) :
    unsignedNumber negative ('0' :: rest) =
      some (wholeNumber negative 0, rest) := by
  cases rest with
  | nil => rfl
  | cons c rest =>
      rcases hEnds c (by simp) with
        ⟨hDigit, hPoint, hLower, hUpper⟩
      simp [unsignedNumber, hDigit, hPoint, hLower, hUpper]

theorem unsignedNumber_toDigits
    {n : Nat}
    {rest : List Char}
    (negative : Bool)
    (hSmall : n < Number.naturalBound)
    (hEnds : Ends rest) :
    unsignedNumber negative (Nat.toDigits 10 n ++ rest) =
      some (wholeNumber negative n, rest) := by
  rcases Nat.eq_zero_or_pos n with hZero | hPos
  · subst hZero
    rw [Nat.toDigits_zero]
    exact unsignedNumber_zero negative hEnds
  · have hTaken :=
      takeSignificand_digits 0 0
        (fun c hDigit => isDigit_toDigits (n := n) hDigit)
        (by rwa [Nat.ofDigitChars_ten_toDigits])
        (fun c hFirst => (hEnds c hFirst).1)
    rw [Nat.ofDigitChars_ten_toDigits] at hTaken
    rcases exists_toDigits_cons hPos with
      ⟨d, ds, hDigits, hFirst⟩
    rw [hDigits] at hTaken ⊢
    have hStop : rest.takeWhile isDigit = [] := by
      cases rest with
      | nil => rfl
      | cons c rest => simp [(hEnds c (by simp)).1]
    have hRest : rest.dropWhile isDigit = rest := by
      cases rest with
      | nil => rfl
      | cons c rest => simp [(hEnds c (by simp)).1]
    simp only [List.cons_append] at hTaken ⊢
    unfold unsignedNumber
    split
    · next hNone => cases hNone
    · next hSame =>
        cases hSame
        exact absurd rfl hFirst
    · simp only [hTaken, hStop, hRest]
      cases rest with
      | nil => simp
      | cons c rest =>
          rcases hEnds c (by simp) with
            ⟨-, hPoint, hLower, hUpper⟩
          simp [hPoint, hLower, hUpper]

/- Whole numbers as far as they are kept. -/
def Number.IsWhole : Number → Prop
  | natural n => n < naturalBound
  | negative n => 0 < n ∧ n ≤ negativeBound
  | real _ => False

theorem Number.toList_write_natural
    (n : Nat) :
    (natural n).write.toList = Nat.toDigits 10 n :=
  Nat.toList_repr

theorem Number.toList_write_negative
    (n : Nat) :
    (negative n).write.toList = '-' :: Nat.toDigits 10 n := by
  show ("-" ++ n.repr).toList = _
  rw [String.toList_append, Nat.toList_repr]
  rfl

theorem exists_toDigits_isDigit
    (n : Nat) :
    ∃ d ds, Nat.toDigits 10 n = d :: ds ∧ isDigit d = true := by
  cases hDigits : Nat.toDigits 10 n with
  | nil => exact absurd hDigits Nat.toDigits_ne_nil
  | cons d ds =>
      exact ⟨d, ds, rfl,
        isDigit_toDigits (n := n) (by simp [hDigits])⟩

/- A whole number begins with a digit or with its sign. -/
theorem Number.IsWhole.write_begins
    {n : Number}
    (hWhole : n.IsWhole) :
    ∃ c cs,
      n.write.toList = c :: cs ∧
        (isDigit c = true ∨ c = '-') := by
  cases n with
  | natural n =>
      rcases exists_toDigits_isDigit n with
        ⟨d, ds, hDigits, hDigit⟩
      rw [toList_write_natural]
      exact ⟨d, ds, hDigits, Or.inl hDigit⟩
  | negative n =>
      rw [toList_write_negative]
      exact ⟨'-', _, rfl, Or.inr rfl⟩
  | real x => cases hWhole

/- A whole number is read as it was written. -/
theorem readNumber_whole
    {n : Number}
    {rest : List Char}
    (hWhole : n.IsWhole)
    (hEnds : Ends rest) :
    readNumber (n.write.toList ++ rest) = some (n, rest) := by
  cases n with
  | natural n =>
      have hRead :=
        unsignedNumber_toDigits false hWhole hEnds
      rw [Number.toList_write_natural]
      rcases exists_toDigits_isDigit n with
        ⟨d, ds, hDigits, hDigit⟩
      rw [hDigits] at hRead ⊢
      unfold readNumber
      split
      · next hMinus =>
          cases hMinus
          exact absurd hDigit (by decide)
      · exact hRead
  | negative n =>
      rcases hWhole with ⟨hPos, hLe⟩
      have hSmall : n < Number.naturalBound :=
        Nat.lt_of_le_of_lt hLe (by decide)
      rw [Number.toList_write_negative]
      simp only [List.cons_append, readNumber]
      rw [unsignedNumber_toDigits true hSmall hEnds]
      have hKept :
          ¬ (n = 0 ∨ Number.negativeBound < n) := by
        omega
      simp only [wholeNumber, if_neg hKept, if_true]
  | real x => cases hWhole

end Json

end Devirt

------------------------------------------------------------
-- Passing Over Strings
------------------------------------------------------------

namespace Devirt

namespace Json

theorem skipString_cons
    {c : Char}
    (cs : List Char)
    (hQuote : c ≠ '"')
    (hEscape : c ≠ '\\')
    (hShown : ¬ c.toNat < 0x20) :
    skipString (c :: cs) = skipString cs := by
  rw [skipString.eq_def]
  split
  case h_5 d others hCons =>
    cases hCons
    exact if_neg hShown
  all_goals simp_all

theorem skipString_fourHex
    {cs rest : List Char}
    {n : Nat}
    (hHex : fourHex cs = some (n, rest)) :
    skipString ('\\' :: 'u' :: cs) = skipString rest := by
  unfold fourHex at hHex
  split at hHex
  · next a b c d behind =>
      simp only [Option.bind_eq_bind, Option.bind_eq_some_iff]
        at hHex
      rcases hHex with ⟨_, hA, _, hB, _, hC, _, hD, hRest⟩
      cases hRest
      simp [skipString, hA, hB, hC, hD]
  · cases hHex

/- A pair of surrogates is passed over one by one. -/
theorem skipString_unicodeEscape
    {cs rest : List Char}
    {e : Char}
    (hEscape : unicodeEscape cs = some (e, rest)) :
    skipString ('\\' :: 'u' :: cs) = skipString rest := by
  simp only [unicodeEscape, Option.bind_eq_bind,
    Option.bind_eq_some_iff] at hEscape
  rcases hEscape with ⟨⟨n, behind⟩, hHex, hRead⟩
  rw [skipString_fourHex hHex]
  dsimp only at hRead
  split at hRead
  · split at hRead
    · next second =>
        rcases Option.bind_eq_some_iff.mp hRead with
          ⟨⟨m, last⟩, hSecond, hPair⟩
        rw [skipString_fourHex hSecond]
        dsimp only at hPair
        split at hPair
        · exact
            congrArg (fun p => skipString p.2)
              (Option.some.inj hPair)
        · cases hPair
    · cases hRead
  · split at hRead
    · cases hRead
    · exact
        congrArg (fun p => skipString p.2)
          (Option.some.inj hRead)

theorem skipString_escape
    {cs rest : List Char}
    {e : Char}
    (hEscape : escape cs = some (e, rest)) :
    skipString ('\\' :: cs) = skipString rest := by
  unfold escape at hEscape
  split at hEscape
  case h_9 => exact skipString_unicodeEscape hEscape
  case h_10 => cases hEscape
  all_goals
    cases hEscape
    simp [skipString]

/- A string that is read is passed over to its end. -/
theorem skipString_of_stringBody
    {fuel : Nat}
    {done cs rest : List Char}
    {s : String}
    (hRead : stringBody fuel done cs = some (s, rest)) :
    skipString cs = some ((), rest) := by
  fun_induction stringBody fuel done cs with
  | case1 => cases hRead
  | case2 => cases hRead
  | case3 fuel done c cs hQuote =>
      cases hRead
      rw [beq_iff_eq.mp hQuote]
      rfl
  | case4 fuel done c cs hQuote hSlash e behind hEscape ih =>
      rw [beq_iff_eq.mp hSlash, skipString_escape hEscape]
      exact ih hRead
  | case5 => cases hRead
  | case6 => cases hRead
  | case7 fuel done c cs hQuote hSlash hShown ih =>
      rw [skipString_cons cs (by simpa using hQuote)
        (by simpa using hSlash) hShown]
      exact ih hRead

theorem skipString_length
    {cs rest : List Char}
    (hSkip : skipString cs = some ((), rest)) :
    rest.length < cs.length := by
  fun_induction skipString cs with
  | case1 => cases hSkip
  | case2 cs =>
      cases hSkip
      exact Nat.lt_succ_self _
  | case3 a b c d cs hHex ih =>
      have hLess := ih hSkip
      simp only [List.length_cons]
      omega
  | case4 => cases hSkip
  | case5 c cs hOther hNamed ih =>
      have hLess := ih hSkip
      simp only [List.length_cons]
      omega
  | case6 => cases hSkip
  | case7 => cases hSkip
  | case8 c cs hQuote hUnicode hSlash hShown ih =>
      exact Nat.lt_succ_of_lt (ih hSkip)

end Json

end Devirt

------------------------------------------------------------
-- Passing Over Numbers
------------------------------------------------------------

namespace Devirt

namespace Json

theorem dropWhile_takeSignificand
    (significand count : Nat)
    (cs : List Char) :
    (takeSignificand significand count cs).2.2.dropWhile
        isDigit =
      cs.dropWhile isDigit := by
  fun_induction takeSignificand significand count cs with
  | case1 => rfl
  | case2 significand count c cs hTaken ih =>
      simp only [Bool.and_eq_true] at hTaken
      rw [List.dropWhile_cons_of_pos hTaken.1, ih]
  | case3 => rfl

/- Where no digit stands, none is taken. -/
theorem takeSignificand_of_isEmpty
    {significand count : Nat}
    {cs : List Char}
    (hNone : (cs.takeWhile isDigit).isEmpty = true) :
    takeSignificand significand count cs =
      (significand, count, cs) := by
  cases cs with
  | nil => rfl
  | cons c cs =>
      have hDigit : isDigit c = false := by
        cases hDigit : isDigit c with
        | false => rfl
        | true => simp [hDigit] at hNone
      simp [takeSignificand, hDigit]

theorem skipExponent_of_finishReal
    {negative : Bool}
    {significand : Nat}
    {exponent : Int}
    {cs rest : List Char}
    {n : Number}
    (hRead :
      finishReal negative significand exponent cs =
        some (n, rest)) :
    skipExponent cs = some ((), rest) := by
  unfold finishReal at hRead
  unfold skipExponent
  split at hRead
  · next c behind =>
      dsimp only
      split at hRead
      · next hMark =>
          rcases Option.bind_eq_some_iff.mp hRead with
            ⟨⟨e, last⟩, hDigits, hScale⟩
          rcases Option.bind_eq_some_iff.mp hScale with
            ⟨x, -, hRest⟩
          cases hRest
          rw [if_pos hMark, hDigits]
          rfl
      · next hMark =>
          rcases Option.bind_eq_some_iff.mp hRead with
            ⟨x, -, hRest⟩
          cases hRest
          rw [if_neg hMark]
  · rcases Option.bind_eq_some_iff.mp hRead with ⟨x, -, hRest⟩
    cases hRest
    rfl

theorem skipFraction_of_finishFraction
    {negative : Bool}
    {significand : Nat}
    {exponent : Int}
    {cs rest : List Char}
    {n : Number}
    (hRead :
      finishFraction negative significand exponent cs =
        some (n, rest)) :
    skipFraction cs = some ((), rest) := by
  unfold finishFraction at hRead
  unfold skipFraction
  split at hRead
  · next behind =>
      dsimp only at hRead ⊢
      split at hRead
      · cases hRead
      · next hSome =>
          rw [dropWhile_takeSignificand] at hRead
          rw [skipDigits, if_neg hSome]
          exact skipExponent_of_finishReal hRead
  · exact skipExponent_of_finishReal hRead

/- What is neither a fraction nor an exponent is left. -/
theorem skipFraction_of_whole
    {cs : List Char}
    (hWhole :
      ∀ c ∈ cs.head?,
        (c == '.' || c == 'e' || c == 'E') = false) :
    skipFraction cs = some ((), cs) := by
  cases cs with
  | nil => rfl
  | cons c cs =>
      have hOther := hWhole c rfl
      simp only [Bool.or_eq_false_iff, beq_eq_false_iff_ne]
        at hOther
      simp [skipFraction, skipExponent, hOther]

theorem skipUnsigned_zero
    (cs : List Char) :
    skipUnsigned ('0' :: cs) =
      if (cs.takeWhile isDigit).isEmpty then
        skipFraction cs
      else
        none :=
  rfl

theorem skipUnsigned_digits
    {cs : List Char}
    (hZero : ∀ rest, cs ≠ '0' :: rest)
    (hSome : ¬ (cs.takeWhile isDigit).isEmpty = true) :
    skipUnsigned cs = skipFraction (cs.dropWhile isDigit) := by
  unfold skipUnsigned
  split
  · exact absurd rfl (hZero _)
  · rw [skipDigits, if_neg hSome]
    rfl

theorem skipUnsigned_of_unsignedNumber
    {negative : Bool}
    {cs rest : List Char}
    {n : Number}
    (hRead : unsignedNumber negative cs = some (n, rest)) :
    skipUnsigned cs = some ((), rest) := by
  unfold unsignedNumber at hRead
  split at hRead
  · cases hRead
  · next behind =>
      rw [skipUnsigned_zero]
      split at hRead
      · next c others =>
          split at hRead
          · cases hRead
          · next hDigit =>
              rw [if_pos (by simp [hDigit])]
              split at hRead
              · exact skipFraction_of_finishFraction hRead
              · next hWhole =>
                  cases hRead
                  exact
                    skipFraction_of_whole (by simpa using hWhole)
      · cases hRead
        rfl
  · next hZero =>
      have hDigits :
          ¬ (cs.takeWhile isDigit).isEmpty = true := by
        intro hNone
        rw [takeSignificand_of_isEmpty hNone] at hRead
        cases hRead
      rw [skipUnsigned_digits hZero hDigits]
      dsimp only at hRead
      rw [dropWhile_takeSignificand] at hRead
      split at hRead
      · cases hRead
      · cases hAfter : cs.dropWhile isDigit with
        | nil =>
            rw [hAfter] at hRead
            dsimp only at hRead
            split at hRead
            · cases hRead
              rfl
            · exact skipFraction_of_finishFraction hRead
        | cons c others =>
            rw [hAfter] at hRead
            dsimp only at hRead
            split at hRead
            · next hWhole =>
                cases hRead
                simp only [Bool.and_eq_true, Bool.not_eq_true']
                  at hWhole
                exact
                  skipFraction_of_whole (by simpa using hWhole.2)
            · exact skipFraction_of_finishFraction hRead

/- A number that is read is passed over to its end. -/
theorem skipNumber_of_readNumber
    {cs rest : List Char}
    {n : Number}
    (hRead : readNumber cs = some (n, rest)) :
    skipNumber cs = some ((), rest) := by
  unfold readNumber at hRead
  unfold skipNumber
  split at hRead
  · exact skipUnsigned_of_unsignedNumber hRead
  · exact skipUnsigned_of_unsignedNumber hRead

theorem length_dropWhile_isDigit
    {cs : List Char}
    (hSome : ¬ (cs.takeWhile isDigit).isEmpty = true) :
    (cs.dropWhile isDigit).length < cs.length := by
  have hAll : cs.takeWhile isDigit ++ cs.dropWhile isDigit = cs :=
    List.takeWhile_append_dropWhile
  have hLength := congrArg List.length hAll
  have hPos : 0 < (cs.takeWhile isDigit).length := by
    simpa [List.length_pos_iff] using hSome
  rw [List.length_append] at hLength
  omega

theorem skipDigits_length
    {cs rest : List Char}
    (hSkip : skipDigits cs = some ((), rest)) :
    rest.length < cs.length := by
  unfold skipDigits at hSkip
  split at hSkip
  · cases hSkip
  · next hSome =>
      cases hSkip
      exact length_dropWhile_isDigit hSome

theorem exponentDigits_length
    {cs rest : List Char}
    {e : Int}
    (hRead : exponentDigits cs = some (e, rest)) :
    rest.length < cs.length := by
  unfold exponentDigits at hRead
  split at hRead
  next minus digits hSign =>
    have hLe : digits.length ≤ cs.length := by
      split at hSign <;> cases hSign <;> simp
    dsimp only at hRead
    split at hRead
    · cases hRead
    · next hSome =>
        cases hRead
        exact
          Nat.lt_of_lt_of_le (length_dropWhile_isDigit hSome) hLe

theorem skipExponent_length
    {cs rest : List Char}
    (hSkip : skipExponent cs = some ((), rest)) :
    rest.length ≤ cs.length := by
  unfold skipExponent at hSkip
  split at hSkip
  · cases hSkip
    exact Nat.le_refl _
  · next c behind =>
      split at hSkip
      · rcases Option.map_eq_some_iff.mp hSkip with
          ⟨⟨e, last⟩, hDigits, hRest⟩
        cases hRest
        have hLess := exponentDigits_length hDigits
        rw [List.length_cons]
        omega
      · cases hSkip
        exact Nat.le_refl _

theorem skipFraction_length
    {cs rest : List Char}
    (hSkip : skipFraction cs = some ((), rest)) :
    rest.length ≤ cs.length := by
  unfold skipFraction at hSkip
  split at hSkip
  · rcases Option.bind_eq_some_iff.mp hSkip with
      ⟨⟨_, behind⟩, hDigits, hRest⟩
    have hLess := skipDigits_length hDigits
    have hLe := skipExponent_length hRest
    rw [List.length_cons]
    omega
  · exact skipExponent_length hSkip

theorem skipUnsigned_length
    {cs rest : List Char}
    (hSkip : skipUnsigned cs = some ((), rest)) :
    rest.length < cs.length := by
  unfold skipUnsigned at hSkip
  split at hSkip
  · split at hSkip
    · exact Nat.lt_succ_of_le (skipFraction_length hSkip)
    · cases hSkip
  · rcases Option.bind_eq_some_iff.mp hSkip with
      ⟨⟨_, behind⟩, hDigits, hRest⟩
    exact
      Nat.lt_of_le_of_lt (skipFraction_length hRest)
        (skipDigits_length hDigits)

theorem skipNumber_length
    {cs rest : List Char}
    (hSkip : skipNumber cs = some ((), rest)) :
    rest.length < cs.length := by
  unfold skipNumber at hSkip
  split at hSkip
  · exact Nat.lt_succ_of_lt (skipUnsigned_length hSkip)
  · exact skipUnsigned_length hSkip

end Json

end Devirt

------------------------------------------------------------
-- Passing Over Scalars
------------------------------------------------------------

namespace Devirt

namespace Json

/- A scalar that is read is passed over to its end. -/
theorem skipScalar_of_readScalar
    {cs rest : List Char}
    {v : Json}
    (hRead : readScalar cs = some (v, rest)) :
    skipScalar cs = some ((), rest) := by
  unfold readScalar at hRead
  unfold skipScalar
  split at hRead
  · cases hRead
    rfl
  · cases hRead
    rfl
  · cases hRead
    rfl
  · rcases Option.map_eq_some_iff.mp hRead with
      ⟨⟨s, behind⟩, hString, hRest⟩
    cases hRest
    exact skipString_of_stringBody hString
  · rcases Option.map_eq_some_iff.mp hRead with
      ⟨⟨n, behind⟩, hNumber, hRest⟩
    cases hRest
    exact skipNumber_of_readNumber hNumber

theorem skipScalar_length
    {cs rest : List Char}
    (hSkip : skipScalar cs = some ((), rest)) :
    rest.length < cs.length := by
  unfold skipScalar at hSkip
  split at hSkip
  case h_4 => exact Nat.lt_succ_of_lt (skipString_length hSkip)
  case h_5 => exact skipNumber_length hSkip
  all_goals
    cases hSkip
    simp only [List.length_cons]
    omega

end Json

end Devirt

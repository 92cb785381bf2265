import Devirt.Proofs.Decimal.Naturals
import Devirt.Proofs.Script.Numbers
import Devirt.Restoration.StringTable

/-
  Numerals that ask for elements of tables.

  An index is written in hexadecimal or in decimal digits.  It
  asks for the element of its number, as far as doubles count:
  a table would need more than fifty-three bits of elements for
  any other answer.  A script reads the same number, unless the
  digits are octal ones behind a zero.

  Main declarations:
    * `StringTable.Index`, `StringTable.Index.value`
    * `StringTable.Index.element?_text`
    * `StringTable.Index.scriptValue`,
      `StringTable.Index.number?_text`
    * `StringTable.Index.scriptValue_eq_iff`
-/

------------------------------------------------------------
-- Indices
------------------------------------------------------------

namespace Devirt

open Pattern

namespace StringTable

/- The numeral of a reference. -/
inductive Index where
  | hex
      (mark : Char)
      (digits : List Char)
      (mark_mem : mark ∈ ['x', 'X'])
      (digits_hex : ∀ d ∈ digits, isHex d = true)
      (digits_ne_nil : digits ≠ [])
  | decimal
      (digits : List Char)
      (digits_decimal : ∀ d ∈ digits, isDigit d = true)
      (digits_ne_nil : digits ≠ [])

namespace Index

/- An index as it is written. -/
def text : Index → List Char
  | hex mark digits _ _ _ => '0' :: mark :: digits
  | decimal digits _ _ => digits

/- The number of the element that is asked for. -/
def value : Index → Nat
  | hex _ digits _ _ _ => Script.Lexer.natOfHex digits
  | decimal digits _ _ => Decimal.natOfDigits digits

/- The characters of an index are its mark and digits. -/
theorem mem_text
    {index : Index}
    {c : Char}
    (hMember : c ∈ index.text) :
    (c = 'x' ∨ c = 'X') ∨ isHex c = true := by
  cases index with
  | hex mark digits mark_mem digits_hex _ =>
      rcases List.mem_cons.mp hMember with rfl | hMember
      · exact Or.inr (by decide)
      · rcases List.mem_cons.mp hMember with rfl | hDigit
        · exact Or.inl (List.mem_pair.mp mark_mem)
        · exact Or.inr (digits_hex c hDigit)
  | decimal digits digits_decimal _ =>
      exact
        Or.inr
          (Script.Lexer.isHex_of_isDigit
            (digits_decimal c hMember))

/- An index is a word of ASCII characters. -/
theorem text_word
    (index : Index) :
    ∀ c ∈ index.text, c.toNat < 128 ∧ Text.isWord c = true := by
  intro c hMember
  rcases mem_text hMember with (rfl | rfl) | hHex
  · decide
  · decide
  · rcases Script.Lexer.word_of_isHex hHex with
      ⟨hAscii, hWord, -⟩
    exact ⟨hAscii, hWord⟩

theorem text_ne_nil
    (index : Index) :
    index.text ≠ [] := by
  cases index with
  | hex => exact List.cons_ne_nil _ _
  | decimal digits _ digits_ne_nil => exact digits_ne_nil

/- Words have no blanks in them. -/
theorem not_isBlank_of_word
    {c : Char}
    (hAscii : c.toNat < 128)
    (hWord : Text.isWord c = true) :
    Text.isBlank c = false :=
  forall_ascii
    (motive := fun c =>
      Text.isWord c = true → Text.isBlank c = false)
    (by decide +kernel) hAscii hWord

/- No blank comes first in an index. -/
theorem head_not_blank
    (index : Index)
    (rest : List Char) :
    ∀ c ∈ (index.text ++ rest).head?,
      Text.isBlank c = false := by
  intro c hHead
  rw [List.head?_append_of_ne_nil _ index.text_ne_nil] at hHead
  rcases index.text_word c (List.mem_of_head? hHead) with
    ⟨hAscii, hWord⟩
  exact not_isBlank_of_word hAscii hWord

end Index

end StringTable

end Devirt

------------------------------------------------------------
-- Elements
------------------------------------------------------------

namespace Devirt

open Pattern

/- A text without blanks is not trimmed. -/
theorem Text.trim_ofList
    {cs : List Char}
    (hNone : ∀ c ∈ cs, Text.isBlank c = false) :
    Text.trim (String.ofList cs) = String.ofList cs := by
  have hNothing :
      ∀ c ∈ ([] : List Char), Text.isBlank c = true := by
    simp
  simpa using Text.trim_surrounded hNothing hNone hNothing

namespace Literal

open Script.Lexer

/- Hexadecimal digits are added up, first to last. -/
theorem foldl_hexValue?
    {digits : List Char}
    (start : Nat)
    (hDigits : ∀ d ∈ digits, isHex d = true) :
    digits.foldl
        (fun (acc : Option Nat) c => do
          let n ← acc
          let d ← hexValue? c
          pure (16 * n + d))
        (some start) =
      some
        (digits.foldl
          (fun n c => 16 * n + (hexValue? c).getD 0) start) := by
  induction digits generalizing start with
  | nil => rfl
  | cons d digits ih =>
      rcases List.forall_mem_cons.mp hDigits with ⟨hHere, hLater⟩
      have hDigit := digit_eq_isHex d
      rw [hHere] at hDigit
      cases hValue : hexValue? d with
      | none =>
          rw [hValue] at hDigit
          cases hDigit
      | some value =>
          rw [List.foldl_cons, List.foldl_cons, hValue,
            Option.getD_some, ← ih _ hLater]
          rfl

theorem hexWord?_eq
    {digits : List Char}
    (hDigits : ∀ d ∈ digits, isHex d = true)
    (hSome : digits ≠ []) :
    hexWord? digits =
      if natOfHex digits < 2 ^ 64 then some (natOfHex digits)
      else none := by
  have hPlus : withoutPlus digits = digits := by
    unfold withoutPlus
    split
    · next rest =>
        exact absurd (hDigits '+' List.mem_cons_self) (by decide)
    · rfl
  rw [hexWord?, hPlus, wordOfDigits?,
    if_neg (by simpa using hSome)]
  dsimp only
  rw [foldl_hexValue? 0 hDigits]
  rfl

theorem decimal?_eq
    {digits : List Char}
    (hDigits : ∀ d ∈ digits, isDigit d = true)
    (hSome : digits ≠ []) :
    decimal? digits =
      some (Decimal.ofNat (Decimal.natOfDigits digits)) := by
  have hEnd : ∀ c ∈ ([] : List Char).head?, isDigit c = false := by
    simp
  have hRun := Decimal.takeWhile_run hDigits hEnd
  rw [List.append_nil] at hRun
  simp [decimal?, hRun.1, hRun.2, hSome, Decimal.ofNumeral,
    Decimal.ofNat]

end Literal

namespace StringTable.Index

open Script.Lexer

/-
  An index is read as the double of its number.  Hexadecimal
  ones beyond machine words are not read at all.
-/
theorem literal_number?_text
    (index : Index) :
    Literal.number? (String.ofList index.text) =
        some (Decimal.ofNat index.value) ∨
      Literal.number? (String.ofList index.text) = none ∧
        2 ^ 64 ≤ index.value := by
  have hTrim :
      (Text.trim (String.ofList index.text)).toList =
        index.text := by
    rw [Text.trim_ofList, String.toList_ofList]
    intro c hMember
    rcases index.text_word c hMember with ⟨hAscii, hWord⟩
    exact not_isBlank_of_word hAscii hWord
  unfold Literal.number?
  rw [hTrim]
  cases index with
  | hex mark digits mark_mem digits_hex digits_ne_nil =>
      have hWord := Literal.hexWord?_eq digits_hex digits_ne_nil
      have hRead :
          ((Literal.hexWord? digits).map Decimal.ofNat =
              some (Decimal.ofNat (natOfHex digits)) ∨
            (Literal.hexWord? digits).map Decimal.ofNat = none ∧
              2 ^ 64 ≤ natOfHex digits) := by
        rw [hWord]
        split_ifs with hFits
        · exact Or.inl rfl
        · exact Or.inr ⟨rfl, Nat.le_of_not_lt hFits⟩
      rcases List.mem_pair.mp mark_mem with rfl | rfl
      · exact hRead
      · exact hRead
  | decimal digits digits_decimal digits_ne_nil =>
      refine Or.inl ?_
      rcases List.exists_cons_of_ne_nil digits_ne_nil with
        ⟨d, ds, rfl⟩
      have hOther :
          ∀ c ∈ d :: ds, ∀ other, isDigit other = false →
            c ≠ other := by
        rintro c hMember other hNone rfl
        rw [digits_decimal c hMember] at hNone
        cases hNone
      have hMinus : d ≠ '-' :=
        hOther d List.mem_cons_self '-' (by decide)
      have hDigits :=
        Literal.decimal?_eq digits_decimal (List.cons_ne_nil d ds)
      have hDrop :
          (d :: ds).dropWhile (· == '-') = d :: ds :=
        List.dropWhile_cons_of_neg (by simpa using hMinus)
      split
      · next heq =>
          cases heq
          exact
            absurd rfl
              (hOther 'x' (by simp) 'x' (by decide))
      · next heq =>
          cases heq
          exact
            absurd rfl
              (hOther 'X' (by simp) 'X' (by decide))
      · dsimp only [text, value]
        rw [hDrop, hDigits]
        simp [hMinus]

/-
  The element that an index asks for is the one of its number,
  unless neither the number nor the table can be counted.
-/
theorem element?_text
    {values : List Json}
    (index : Index)
    (hCounts :
      index.value < 2 ^ 53 ∨ values.length < 2 ^ 53) :
    element? values index.text = values[index.value]? := by
  unfold element?
  rcases index.literal_number?_text with
    hNumber | ⟨hNone, hLarge⟩
  · rw [hNumber]
    change
      (if Decimal.ofNat index.value < values.length.toFloat then
          values[(Decimal.ofNat index.value).toUInt64.toNat]?
        else none) = _
    by_cases hInside : index.value < values.length
    · rw [if_pos
          ((Decimal.ofNat_lt_toFloat_iff hCounts).mpr hInside),
        Decimal.toUInt64_ofNat (by omega)]
    · rw [if_neg
          (mt (Decimal.ofNat_lt_toFloat_iff hCounts).mp hInside),
        List.getElem?_eq_none (Nat.le_of_not_lt hInside)]
  · rw [hNone, List.getElem?_eq_none (by omega)]
    rfl

end StringTable.Index

end Devirt

------------------------------------------------------------
-- Readings
------------------------------------------------------------

namespace Devirt

open Pattern

namespace StringTable.Index

open Script.Lexer

/- A zero before further digits, as it was once allowed. -/
def isLegacy : Index → Bool
  | hex _ _ _ _ _ => false
  | decimal digits _ _ =>
    digits.head? == some '0' && decide (1 < digits.length)

/- Octal digits behind a zero. -/
def isOctal : Index → Bool
  | hex _ _ _ _ _ => false
  | decimal digits h₁ h₂ =>
    (decimal digits h₁ h₂).isLegacy &&
      digits.all fun c => (octalValue? c).isSome

/- The number that a script reads. -/
def scriptValue (index : Index) : Nat :=
  if index.isOctal then natOfBase 8 index.text else index.value

theorem natOfBase_zero
    (base : Nat)
    (digits : List Char) :
    natOfBase base ('0' :: digits) = natOfBase base digits := by
  have hZero : (Literal.hexValue? '0').getD 0 = 0 := by decide
  simp [natOfBase, hZero]

theorem natOfDigits_zero
    (digits : List Char) :
    Decimal.natOfDigits ('0' :: digits) =
      Decimal.natOfDigits digits := by
  simp [Decimal.natOfDigits]

/- A script reads an index as one token. -/
theorem number?_text
    (index : Index) :
    number? index.text =
      some
        (.number (Decimal.ofNat index.scriptValue) index.isLegacy,
          []) := by
  have hEnd : NoWordAhead [] := by
    intro c hHead
    cases hHead
  cases index with
  | hex mark digits mark_mem digits_hex digits_ne_nil =>
      have hRead :=
        number?_hex mark_mem digits_hex digits_ne_nil hEnd
      rw [List.append_nil] at hRead
      exact hRead
  | decimal digits digits_decimal digits_ne_nil =>
      have hDot : ([] : List Char).head? ≠ some '.' := by simp
      by_cases hLegacy :
          (decimal digits digits_decimal
            digits_ne_nil).isLegacy = true
      · -- a zero, and digits behind it
        rcases Bool.and_eq_true_iff.mp hLegacy with
          ⟨hZero, hMore⟩
        rcases List.head?_eq_some_iff.mp (beq_iff_eq.mp hZero)
          with ⟨ds, rfl⟩
        have hSome : ds ≠ [] := by
          rintro rfl
          simp at hMore
        have hRead :=
          number?_legacy
            (fun c hMember =>
              digits_decimal c (List.mem_cons_of_mem _ hMember))
            hSome hEnd
        rw [List.append_nil] at hRead
        have hFirst : (octalValue? '0').isSome = true := by decide
        simp only [text, scriptValue, isOctal, value, hLegacy,
          List.all_cons, hFirst, Bool.true_and, natOfBase_zero,
          natOfDigits_zero]
        rw [hRead]
        split_ifs
        · rfl
        · exact afterWhole_end true hEnd hDot
      · have hLead :
            digits = ['0'] ∨ ∃ d ds, digits = d :: ds ∧ d ≠ '0' := by
          rcases List.exists_cons_of_ne_nil digits_ne_nil with
            ⟨d, ds, rfl⟩
          by_cases hZero : d = '0'
          · have hOne : ds = [] := by
              cases ds with
              | nil => rfl
              | cons => simp [isLegacy, hZero] at hLegacy
            exact Or.inl (by rw [hZero, hOne])
          · exact Or.inr ⟨d, ds, rfl, hZero⟩
        have hRead := number?_plain digits_decimal hLead hEnd
        rw [List.append_nil] at hRead
        rw [Bool.eq_false_iff.mpr hLegacy]
        simp only [text, scriptValue, isOctal, value, hLegacy,
          Bool.false_and, Bool.false_eq_true, if_false]
        rw [hRead]
        exact afterWhole_end false hEnd hDot

theorem octal_digit
    {c : Char}
    (hOctal : (octalValue? c).isSome = true) :
    (Literal.hexValue? c).getD 0 = c.toNat - '0'.toNat ∧
      c.toNat - '0'.toNat < 8 := by
  unfold octalValue? at hOctal
  split_ifs at hOctal with hRange
  · simp only [Bool.and_eq_true, decide_eq_true_eq, Char.le_def,
      UInt32.le_iff_toNat_le] at hRange
    have hLast : '7'.toNat = 55 := rfl
    have hZero : '0'.toNat = 48 := rfl
    have hNine : ('0' ≤ c && c ≤ '9') = true := by
      simp only [Bool.and_eq_true, decide_eq_true_eq,
        Char.le_def, UInt32.le_iff_toNat_le]
      exact ⟨hRange.1, Nat.le_trans hRange.2 (by decide)⟩
    refine ⟨by simp [Literal.hexValue?, hNine], ?_⟩
    have hHigh : c.toNat ≤ '7'.toNat := hRange.2
    omega
  · cases hOctal

/- Octal digits make no more than decimal ones. -/
theorem natOfBase_eight
    {digits : List Char}
    (hDigits : ∀ d ∈ digits, (octalValue? d).isSome = true) :
    natOfBase 8 digits ≤ Decimal.natOfDigits digits ∧
      (natOfBase 8 digits = Decimal.natOfDigits digits ↔
        Decimal.natOfDigits digits < 8) := by
  induction digits using List.reverseRecOn with
  | nil => simp [natOfBase, Decimal.natOfDigits]
  | append_singleton digits d ih =>
      rcases List.forall_mem_append.mp hDigits with
        ⟨hFirst, hLast⟩
      rcases ih hFirst with ⟨hLe, hSame⟩
      rcases octal_digit (hLast d (by simp)) with ⟨hValue, hLess⟩
      have hOctal :
          natOfBase 8 (digits ++ [d]) =
            8 * natOfBase 8 digits + (d.toNat - '0'.toNat) := by
        simp [natOfBase, hValue]
      have hDecimal :
          Decimal.natOfDigits (digits ++ [d]) =
            10 * Decimal.natOfDigits digits +
              (d.toNat - '0'.toNat) := by
        simp [Decimal.natOfDigits]
      rw [hOctal, hDecimal]
      constructor <;> omega

/- Only octal digits are misread, and only beyond the first. -/
theorem scriptValue_eq_iff
    (index : Index) :
    index.scriptValue = index.value ↔
      index.isOctal = false ∨ index.value < 8 := by
  unfold scriptValue
  split_ifs with hOctal
  · cases index with
    | hex => cases hOctal
    | decimal digits digits_decimal digits_ne_nil =>
        have hAll := (Bool.and_eq_true_iff.mp hOctal).2
        have hSame :=
          (natOfBase_eight (List.all_eq_true.mp hAll)).2
        rw [hOctal]
        simpa [text, value] using hSame
  · simp [hOctal]

end StringTable.Index

end Devirt

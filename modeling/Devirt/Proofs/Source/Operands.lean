import Devirt.Proofs.Source.Gaps

/-
  Operands, and how the scanner knows them.

  The scanner knows an operand by its last byte and by the word
  that it ends with.  So it takes an operand to be still to
  come behind the signs of a postfix operator, behind names
  that end with a keyword for it, and behind names that end
  with the brace of an escape; behind all other operands it
  does not.

  Main declarations:
    * `Scanner.endingWord`, `Scanner.regexAllowed_encode`
    * `Operand`, `Operand.isFirm`, `Operand.regexAllowed_eq`
    * `Operand.isPlain`, `Operand.exists_reads`
-/

------------------------------------------------------------
-- Ending Words
------------------------------------------------------------

namespace Devirt

namespace Scanner

open CodeMap

/- The word that some characters end with for the scanner. -/
def endingWord (cs : List Char) : List UInt8 :=
  trailingWord (encode cs).reverse

theorem trailingWord_append
    {right : List UInt8}
    (left : List UInt8)
    (hApart : trailingWord right = []) :
    trailingWord (left ++ right) = trailingWord left := by
  have hNone : right.takeWhile isIdentifier = [] := by
    simpa [trailingWord] using hApart
  unfold trailingWord
  rw [List.takeWhile_append]
  split_ifs with hAll
  · rw [hNone, List.append_nil,
      (List.takeWhile_prefix _).eq_of_length hAll]
  · rfl

/- A word that stands apart is not lengthened. -/
theorem endingWord_append
    {left : List Char}
    (right : List Char)
    (hApart : endingWord left = []) :
    endingWord (left ++ right) = endingWord right := by
  unfold endingWord
  rw [encode_append, List.reverse_append]
  exact trailingWord_append _ hApart

/- The last byte of a character that is not ASCII. -/
theorem exists_last_byte
    {c : Char}
    (hHigh : 128 ≤ c.toNat) :
    ∃ front b,
      String.utf8EncodeChar c = front ++ [b] ∧
        IsSignificant b := by
  have hBytes := utf8EncodeChar_high hHigh
  rcases List.eq_nil_or_concat' (String.utf8EncodeChar c) with
    hNil | ⟨front, b, hConcat⟩
  · have hPos := length_encode_pos (List.cons_ne_nil c [])
    rw [encode_cons, hNil] at hPos
    exact absurd hPos (by decide)
  · refine ⟨front, b, hConcat, significant_of_high ?_⟩
    apply hBytes
    rw [hConcat]
    exact List.mem_append_right _ List.mem_cons_self

/- Characters of no word, for the scanner. -/
def isApart (c : Char) : Bool :=
  !(decide (c.toNat < 128) && isIdentifier (byte c))

/- Characters that no operand ends with, for the scanner. -/
def isOpener (c : Char) : Bool :=
  decide (c.toNat < 128) && openers.contains (byte c)

/- The bytes up to an ASCII character, in reverse order. -/
theorem reverse_encode_concat
    {c : Char}
    (cs : List Char)
    (hAscii : c.toNat < 128) :
    (encode (cs ++ [c])).reverse =
      byte c :: (encode cs).reverse := by
  rw [encode_append, List.reverse_append,
    encode_cons_ascii _ hAscii]
  rfl

/- Other characters end with a significant byte. -/
theorem exists_reverse_encode
    {c : Char}
    (cs : List Char)
    (hHigh : 128 ≤ c.toNat) :
    ∃ b rest,
      (encode (cs ++ [c])).reverse = b :: rest ∧
        IsSignificant b := by
  rcases exists_last_byte hHigh with ⟨front, b, hBytes, hLast⟩
  refine ⟨b, front.reverse ++ (encode cs).reverse, ?_, hLast⟩
  rw [encode_append, List.reverse_append, encode_cons,
    encode_nil, List.append_nil, hBytes, List.reverse_append]
  rfl

theorem endingWord_concat_of_apart
    {c : Char}
    (cs : List Char)
    (hApart : isApart c = true) :
    endingWord (cs ++ [c]) = [] := by
  unfold endingWord
  by_cases hAscii : c.toNat < 128
  · have hOther : isIdentifier (byte c) = false := by
      simpa [isApart, hAscii] using hApart
    rw [reverse_encode_concat cs hAscii, trailingWord_cons,
      hOther]
    rfl
  · rcases exists_reverse_encode cs (Nat.not_lt.mp hAscii) with
      ⟨b, rest, hBytes, hLast⟩
    rw [hBytes, trailingWord_cons, hLast.identifier]
    rfl

theorem endingWord_concat
    {c : Char}
    (cs : List Char)
    (hWord : isApart c = false) :
    endingWord (cs ++ [c]) = endingWord cs ++ [byte c] := by
  have hBoth : c.toNat < 128 ∧ isIdentifier (byte c) = true := by
    simpa [isApart] using hWord
  unfold endingWord
  rw [reverse_encode_concat cs hBoth.1, trailingWord_cons,
    if_pos hBoth.2]

theorem not_openingWord_nil :
    openingWords.contains [] = false := by
  decide +kernel

/- Whether an operand is to come behind some characters. -/
theorem regexAllowed_encode
    (cs : List Char)
    (c : Char) :
    regexAllowed (some (encode (cs ++ [c])).reverse) =
      (isOpener c ||
        openingWords.contains (endingWord (cs ++ [c]))) := by
  by_cases hAscii : c.toNat < 128
  · have hOpener : isOpener c = openers.contains (byte c) := by
      simp [isOpener, hAscii]
    unfold endingWord
    rw [reverse_encode_concat cs hAscii, regexAllowed_cons,
      hOpener]
    cases hWord : isIdentifier (byte c) with
    | true => rw [Bool.true_and]
    | false =>
        rw [trailingWord_cons, hWord, Bool.false_and]
        exact congrArg _ not_openingWord_nil.symm
  · rcases exists_reverse_encode cs (Nat.not_lt.mp hAscii) with
      ⟨b, rest, hBytes, hLast⟩
    have hOpener : isOpener c = false := by
      simp [isOpener, hAscii]
    have hApart : isApart c = true := by simp [isApart, hAscii]
    rw [endingWord_concat_of_apart cs hApart,
      not_openingWord_nil, hOpener, hBytes, hLast.disallows]
    rfl

/- A word with a byte that no keyword has is none. -/
theorem not_openingWord_of_mem
    {word : List UInt8}
    {b : UInt8}
    (hMember : b ∈ word)
    (hOther : ∀ keyword ∈ openingWords, b ∉ keyword) :
    openingWords.contains word = false := by
  rw [Bool.eq_false_iff]
  intro hKeyword
  exact hOther word (List.contains_iff_mem.mp hKeyword) hMember

end Scanner

end Devirt

------------------------------------------------------------
-- Operands
------------------------------------------------------------

namespace Devirt

open Scanner CodeMap Script.Lexer

inductive NamePart where
  | char (c : Char)
  /- an escape of four digits -/
  | unicode (ds : List Char)
  /- an escape in braces -/
  | codePoint (ds : List Char)

namespace NamePart

def text : NamePart → List Char
  | char c => [c]
  | unicode ds => '\\' :: 'u' :: ds
  | codePoint ds => '\\' :: 'u' :: '{' :: (ds ++ ['}'])

def Fits : NamePart → Prop
  | char c => Text.isIdContinue c = true
  | unicode ds =>
      ds.length = 4 ∧ ∀ d ∈ ds, isHexDigit d = true
  | codePoint ds =>
      ds ≠ [] ∧ (∀ d ∈ ds, isHexDigit d = true) ∧
        natOfHex ds ≤ 0x10FFFF

instance (p : NamePart) : Decidable p.Fits :=
  match p with
  | char c =>
      inferInstanceAs (Decidable (Text.isIdContinue c = true))
  | unicode _ => inferInstanceAs (Decidable (_ ∧ _))
  | codePoint _ => inferInstanceAs (Decidable (_ ∧ _ ∧ _))

end NamePart

/- The characters of numerals but for points and signs. -/
def isNumeralChar (c : Char) : Bool :=
  Text.isAsciiAlphanumeric c || c == '_'

inductive NumeralToken where
  /- digits with what follows them directly -/
  | word (cs : List Char)
  | fraction (whole cs : List Char)
  /- a numeral up to the letter of its exponent, and the rest -/
  | power (mantissa : List Char) (sign : Char) (cs : List Char)

namespace NumeralToken

def text : NumeralToken → List Char
  | word cs => cs
  | fraction whole cs => whole ++ '.' :: cs
  | power mantissa sign cs => mantissa ++ sign :: cs

def Fits : NumeralToken → Prop
  | word cs =>
      (∃ d ∈ cs, isDigit d = true) ∧
        ∀ c ∈ cs, isNumeralChar c = true
  | fraction whole cs =>
      (∀ c ∈ whole, isNumeralChar c = true) ∧
        (cs = [] ∨ ∃ d ∈ cs, isDigit d = true) ∧
          ∀ c ∈ cs, isNumeralChar c = true
  | power mantissa sign cs =>
      (∀ c ∈ mantissa, isNumeralChar c = true ∨ c = '.') ∧
        (sign = '+' ∨ sign = '-') ∧
          (∃ d ∈ cs, isDigit d = true) ∧
            ∀ c ∈ cs, isNumeralChar c = true

end NumeralToken

/- The flags that regular expressions know. -/
def regexpFlags : List Char :=
  ['d', 'g', 'i', 'm', 's', 'u', 'v', 'y']

/- What may stand before a sign of division. -/
inductive Operand where
  | name (parts : List NamePart)
  | numeral (n : NumeralToken)
  | string (l : StringLiteral)
  | regexp (body flags : List Char)
  /- what a closing bracket ends -/
  | closed (bracket : Char)
  /- an operand that is increased or decreased -/
  | stepped (o : Operand) (gap : List GapPart) (sign : Char)

namespace Operand

def text : Operand → List Char
  | name parts => parts.flatMap NamePart.text
  | numeral n => n.text
  | string l => l.quote :: (l.body ++ [l.quote])
  | regexp body flags => '/' :: (body ++ '/' :: flags)
  | closed bracket => [bracket]
  | stepped o gap sign => o.text ++ gapText gap ++ [sign, sign]

def Fits : Operand → Prop
  | name parts => parts ≠ [] ∧ ∀ p ∈ parts, p.Fits
  | numeral n => n.Fits
  | string _ => True
  | regexp body flags =>
      body ≠ [] ∧ (∀ c ∈ body, isLineEnd c = false) ∧
        ∀ f ∈ flags, f ∈ regexpFlags
  | closed bracket => bracket = ')' ∨ bracket = ']'
  | stepped o gap sign =>
      o.Fits ∧ (∀ p ∈ gap, p.Fits) ∧ (sign = '+' ∨ sign = '-')

/- Names stand apart from the characters before them. -/
def StandsApart (before : List Char) : Operand → Prop
  | name _ => endingWord before = []
  | _ => True

/-
  The operands that the scanner knows as such: names that end
  neither with a keyword nor with the brace of an escape, and
  all others but those with a postfix operator.
-/
def isFirm : Operand → Bool
  | name parts =>
      let text := parts.flatMap NamePart.text
      text.getLast? != some '}'
        && !openingWords.contains (endingWord text)
  | stepped _ _ _ => false
  | _ => true

end Operand

------------------------------------------------------------
-- Firm Operands
------------------------------------------------------------

/- Words of ASCII letters and digits end with themselves. -/
theorem endingWord_of_word
    {cs : List Char}
    (before : List Char)
    (hWord : ∀ c ∈ cs, isApart c = false) :
    endingWord (before ++ cs) =
      endingWord before ++ cs.map byte := by
  induction cs using List.reverseRecOn with
  | nil => simp
  | append_singleton cs c ih =>
      rcases List.forall_mem_append.mp hWord with ⟨hRest, hLast⟩
      rw [← List.append_assoc,
        endingWord_concat _ (hLast c List.mem_cons_self),
        ih hRest]
      simp

theorem ascii_of_isNumeralChar
    {c : Char}
    (hChar : isNumeralChar c = true) :
    c.toNat < 128 := by
  have hUpTo : ∀ d : Char, c ≤ d → c.toNat ≤ d.toNat :=
    fun d hLe => UInt32.le_iff_toNat_le.mp (Char.le_def.mp hLe)
  have hCases :
      c ≤ 'z' ∨ c ≤ 'Z' ∨ c ≤ '9' ∨ c = '_' := by
    simp only [isNumeralChar, Text.isAsciiAlphanumeric,
      Bool.or_eq_true, Bool.and_eq_true, decide_eq_true_eq,
      beq_iff_eq] at hChar
    tauto
  rcases hCases with hLe | hLe | hLe | rfl
  · exact Nat.lt_of_le_of_lt (hUpTo 'z' hLe) (by decide)
  · exact Nat.lt_of_le_of_lt (hUpTo 'Z' hLe) (by decide)
  · exact Nat.lt_of_le_of_lt (hUpTo '9' hLe) (by decide)
  · decide

/- Numerals are written with characters of words. -/
theorem isApart_of_isNumeralChar
    {c : Char}
    (hChar : isNumeralChar c = true) :
    isApart c = false ∧ isOpener c = false := by
  have hAll :
      ∀ n : Fin 128,
        isNumeralChar (Char.ofNat n) = true →
          isApart (Char.ofNat n) = false ∧
            isOpener (Char.ofNat n) = false := by
    decide
  have hHere := hAll ⟨c.toNat, ascii_of_isNumeralChar hChar⟩
  rw [Char.ofNat_toNat] at hHere
  exact hHere hChar

/- No keyword has a digit. -/
theorem not_openingWord_of_digit
    {word : List UInt8}
    {d : Char}
    (hDigit : isDigit d = true)
    (hMember : byte d ∈ word) :
    openingWords.contains word = false := by
  have hNumeral : isNumeralChar d = true := by
    have hBetween : '0' ≤ d ∧ d ≤ '9' := by
      simpa [isDigit] using hDigit
    simp [isNumeralChar, Text.isAsciiAlphanumeric, hBetween]
  have hAll :
      ∀ n : Fin 128,
        isDigit (Char.ofNat n) = true →
          ∀ keyword ∈ openingWords,
            byte (Char.ofNat n) ∉ keyword := by
    decide +kernel
  have hHere := hAll ⟨d.toNat, ascii_of_isNumeralChar hNumeral⟩
  rw [Char.ofNat_toNat] at hHere
  exact not_openingWord_of_mem hMember (hHere hDigit)

/-
  No operand is to come behind characters of numerals with a
  digit among them.
-/
theorem regexAllowed_of_numeral
    {cs : List Char}
    (before : List Char)
    (hDigit : ∃ d ∈ cs, isDigit d = true)
    (hChars : ∀ c ∈ cs, isNumeralChar c = true) :
    regexAllowed (some (encode (before ++ cs)).reverse) =
      false := by
  rcases hDigit with ⟨d, hMember, hDigit⟩
  rcases List.eq_nil_or_concat' cs with rfl | ⟨front, c, rfl⟩
  · cases hMember
  · have hWord : byte d ∈ endingWord (before ++ (front ++ [c])) := by
      rw [endingWord_of_word before fun c hChar =>
        (isApart_of_isNumeralChar (hChars c hChar)).1]
      exact
        List.mem_append_right _ (List.mem_map_of_mem hMember)
    have hLast :=
      isApart_of_isNumeralChar (hChars c (by simp))
    rw [← List.append_assoc] at hWord ⊢
    rw [regexAllowed_encode, hLast.2,
      not_openingWord_of_digit hDigit hWord]
    rfl

/-
  No operand is to come behind a character that is neither of a
  word nor punctuation before operands.
-/
theorem regexAllowed_of_apart
    {c : Char}
    (before : List Char)
    (hApart : isApart c = true)
    (hOpener : isOpener c = false) :
    regexAllowed (some (encode (before ++ [c])).reverse) =
      false := by
  rw [regexAllowed_encode, hOpener,
    endingWord_concat_of_apart before hApart,
    not_openingWord_nil]
  rfl

theorem NumeralToken.regexAllowed_eq
    {n : NumeralToken}
    (before : List Char)
    (hFits : n.Fits) :
    regexAllowed (some (encode (before ++ n.text)).reverse) =
      false := by
  cases n with
  | word cs => exact regexAllowed_of_numeral before hFits.1 hFits.2
  | fraction whole cs =>
      rcases hFits with ⟨-, rfl | hDigit, hChars⟩
      · rw [text, ← List.append_assoc]
        exact regexAllowed_of_apart _ rfl rfl
      · have hText :
            before ++ (fraction whole cs).text =
              (before ++ whole ++ ['.']) ++ cs := by
          simp [text]
        rw [hText]
        exact regexAllowed_of_numeral _ hDigit hChars
  | power mantissa sign cs =>
      rcases hFits with ⟨-, -, hDigit, hChars⟩
      have hText :
          before ++ (power mantissa sign cs).text =
            (before ++ mantissa ++ [sign]) ++ cs := by
        simp [text]
      rw [hText]
      exact regexAllowed_of_numeral _ hDigit hChars

/- No operand is to come behind a regular expression. -/
theorem regexAllowed_of_flags
    {flags : List Char}
    (before : List Char)
    (hFlags : ∀ f ∈ flags, f ∈ regexpFlags) :
    regexAllowed (some (encode (before ++ '/' :: flags)).reverse) =
      false := by
  have hChars :
      ∀ f ∈ regexpFlags,
        isApart f = false ∧ isOpener f = false := by
    intro f hFlag
    simp only [regexpFlags, List.mem_cons, List.not_mem_nil,
      or_false] at hFlag
    rcases hFlag with
      rfl | rfl | rfl | rfl | rfl | rfl | rfl | rfl <;> decide
  have hOther :
      ∀ keyword ∈ openingWords,
        ∃ b ∈ keyword, b ∉ regexpFlags.map byte := by
    decide +kernel
  rcases List.eq_nil_or_concat' flags with rfl | ⟨front, f, rfl⟩
  · exact regexAllowed_of_apart before rfl rfl
  · have hText :
        before ++ '/' :: (front ++ [f]) =
          (before ++ '/' :: front) ++ [f] := by
      simp
    have hLast := hChars f (hFlags f (by simp))
    -- the word of the flags begins behind the slash
    have hWord :
        endingWord ((before ++ '/' :: front) ++ [f]) =
          (front ++ [f]).map byte := by
      have hParts :
          (before ++ '/' :: front) ++ [f] =
            (before ++ ['/']) ++ (front ++ [f]) := by
        simp
      rw [hParts,
        endingWord_of_word _ fun c hMember =>
          (hChars c (hFlags c hMember)).1,
        endingWord_concat_of_apart before rfl, List.nil_append]
    have hKeyword :
        openingWords.contains ((front ++ [f]).map byte) =
          false := by
      rw [Bool.eq_false_iff]
      intro hContains
      have hMember := List.contains_iff_mem.mp hContains
      rcases hOther _ hMember with ⟨b, hByte, hNone⟩
      rcases List.mem_map.mp hByte with ⟨c, hChar, rfl⟩
      exact hNone (List.mem_map_of_mem (hFlags c hChar))
    rw [hText, regexAllowed_encode, hLast.2, hWord, hKeyword]
    rfl

/- What a name ends with is an opener only if it is a brace. -/
theorem NamePart.exists_concat
    {p : NamePart}
    (hFits : p.Fits) :
    ∃ front c,
      p.text = front ++ [c] ∧ isOpener c = (c == '}') := by
  have hAscii :
      ∀ n : Fin 128,
        Text.isIdContinue (Char.ofNat n) = true ∨
            isHexDigit (Char.ofNat n) = true →
          isOpener (Char.ofNat n) = (Char.ofNat n == '}') := by
    decide
  have hChars :
      ∀ c, Text.isIdContinue c = true ∨ isHexDigit c = true →
        isOpener c = (c == '}') := by
    intro c hChar
    by_cases hSmall : c.toNat < 128
    · have hHere := hAscii ⟨c.toNat, hSmall⟩
      rw [Char.ofNat_toNat] at hHere
      exact hHere hChar
    · have hBrace : (c == '}') = false := by
        rw [beq_eq_false_iff_ne]
        rintro rfl
        exact hSmall (by decide)
      rw [hBrace]
      simp [isOpener, hSmall]
  have hDigits :
      ∀ d, isHexDigit d = true → isOpener d = (d == '}') :=
    fun d hDigit => hChars d (Or.inr hDigit)
  cases p with
  | char c => exact ⟨[], c, rfl, hChars c (Or.inl hFits)⟩
  | unicode ds =>
      rcases List.eq_nil_or_concat' ds with rfl | ⟨front, d, rfl⟩
      · cases hFits.1
      · refine ⟨'\\' :: 'u' :: front, d, rfl, ?_⟩
        exact hDigits d (hFits.2 d (by simp))
  | codePoint ds =>
      exact ⟨'\\' :: 'u' :: '{' :: ds, '}', rfl, rfl⟩

/-
  No operand is to come behind an operand exactly if the
  scanner knows it as such.
-/
theorem Operand.regexAllowed_eq
    {before : List Char}
    {o : Operand}
    (hFits : o.Fits)
    (hApart : o.StandsApart before) :
    regexAllowed (some (encode (before ++ o.text)).reverse) =
      !o.isFirm := by
  cases o with
  | name parts =>
      rcases hFits with ⟨hSome, hParts⟩
      rcases List.eq_nil_or_concat' parts with rfl | ⟨front, p, rfl⟩
      · exact absurd rfl hSome
      · rcases NamePart.exists_concat (hParts p (by simp)) with
          ⟨start, c, hText, hOpener⟩
        have hName :
            (front ++ [p]).flatMap NamePart.text =
              (front.flatMap NamePart.text ++ start) ++ [c] := by
          simp [hText]
        have hWord :=
          endingWord_append
            ((front.flatMap NamePart.text ++ start) ++ [c]) hApart
        rw [← List.append_assoc] at hWord
        simp only [text, isFirm]
        rw [hName, ← List.append_assoc, regexAllowed_encode,
          hWord, hOpener, List.getLast?_concat]
        simp [bne]
  | numeral n => exact n.regexAllowed_eq before hFits
  | string l =>
      have hText :
          before ++ (string l).text =
            (before ++ l.quote :: l.body) ++ [l.quote] := by
        simp [text]
      rw [hText]
      rcases l.isQuote with hDouble | hSingle
      · rw [hDouble]
        exact regexAllowed_of_apart _ rfl rfl
      · rw [hSingle]
        exact regexAllowed_of_apart _ rfl rfl
  | regexp body flags =>
      have hText :
          before ++ (regexp body flags).text =
            (before ++ '/' :: body) ++ '/' :: flags := by
        simp [text]
      rw [hText]
      exact regexAllowed_of_flags _ hFits.2.2
  | closed bracket =>
      rcases hFits with rfl | rfl <;>
        exact regexAllowed_of_apart before rfl rfl
  | stepped o gap sign =>
      have hText :
          before ++ (stepped o gap sign).text =
            (before ++ o.text ++ gapText gap ++ [sign]) ++ [sign] := by
        simp [text]
      have hSign : isOpener sign = true := by
        rcases hFits.2.2 with rfl | rfl <;> rfl
      rw [hText, regexAllowed_encode, hSign]
      rfl

end Devirt

------------------------------------------------------------
-- Reading Operands
------------------------------------------------------------

namespace Devirt

open Scanner CodeMap Script.Lexer

/- Characters that neither open anything nor are blank. -/
def Scanner.isSolid (c : Char) : Bool :=
  128 ≤ c.toNat || (!isQuote (byte c) && byte c != slash
    && !isSpace (byte c))

namespace Scanner

theorem solid_encode
    {cs : List Char}
    (hSolid : ∀ c ∈ cs, isSolid c = true) :
    ∀ b ∈ encode cs, IsSolid b := by
  intro b hMember
  rcases List.mem_flatMap.mp hMember with ⟨c, hChar, hByte⟩
  have hHere := hSolid c hChar
  by_cases hAscii : c.toNat < 128
  · rw [utf8EncodeChar_ascii hAscii, List.mem_singleton] at hByte
    subst hByte
    simp only [isSolid, Nat.not_le.mpr hAscii, decide_false,
      Bool.false_or, Bool.and_eq_true, Bool.not_eq_true',
      bne_iff_ne] at hHere
    exact ⟨⟨hHere.1.1, hHere.1.2⟩, hHere.2⟩
  · have hHigh := Nat.not_lt.mp hAscii
    exact
      (significant_of_high
        (utf8EncodeChar_high hHigh b hByte)).solid

end Scanner

theorem isSolid_of_isNumeralChar
    {c : Char}
    (hChar : isNumeralChar c = true) :
    isSolid c = true := by
  have hAll :
      ∀ n : Fin 128,
        isNumeralChar (Char.ofNat n) = true →
          isSolid (Char.ofNat n) = true := by
    decide
  have hHere := hAll ⟨c.toNat, ascii_of_isNumeralChar hChar⟩
  rw [Char.ofNat_toNat] at hHere
  exact hHere hChar

theorem NamePart.isSolid_text
    {p : NamePart}
    (hFits : p.Fits) :
    ∀ c ∈ p.text, isSolid c = true := by
  have hAscii :
      ∀ n : Fin 128,
        Text.isIdContinue (Char.ofNat n) = true ∨
            isHexDigit (Char.ofNat n) = true →
          isSolid (Char.ofNat n) = true := by
    decide
  have hChars :
      ∀ c, Text.isIdContinue c = true ∨ isHexDigit c = true →
        isSolid c = true := by
    intro c hChar
    by_cases hSmall : c.toNat < 128
    · have hHere := hAscii ⟨c.toNat, hSmall⟩
      rw [Char.ofNat_toNat] at hHere
      exact hHere hChar
    · simp [isSolid, Nat.not_lt.mp hSmall]
  cases p with
  | char c =>
      intro d hMember
      rw [text, List.mem_singleton] at hMember
      subst hMember
      exact hChars d (Or.inl hFits)
  | unicode ds =>
      intro d hMember
      simp only [text, List.mem_cons] at hMember
      rcases hMember with rfl | rfl | hDigit
      · rfl
      · rfl
      · exact hChars d (Or.inr (hFits.2 d hDigit))
  | codePoint ds =>
      intro d hMember
      simp only [text, List.mem_cons, List.mem_append,
        List.not_mem_nil, or_false] at hMember
      rcases hMember with rfl | rfl | rfl | hDigit | rfl
      · rfl
      · rfl
      · rfl
      · exact hChars d (Or.inr (hFits.2.1 d hDigit))
      · rfl

theorem NumeralToken.isSolid_text
    {n : NumeralToken}
    (hFits : n.Fits) :
    ∀ c ∈ n.text, isSolid c = true := by
  intro c hMember
  cases n with
  | word cs => exact isSolid_of_isNumeralChar (hFits.2 c hMember)
  | fraction whole cs =>
      simp only [text, List.mem_append, List.mem_cons] at hMember
      rcases hMember with hWhole | rfl | hRest
      · exact isSolid_of_isNumeralChar (hFits.1 c hWhole)
      · rfl
      · exact isSolid_of_isNumeralChar (hFits.2.2 c hRest)
  | power mantissa sign cs =>
      rcases hFits with ⟨hMantissa, hSign, -, hChars⟩
      simp only [text, List.mem_append, List.mem_cons] at hMember
      rcases hMember with hFront | rfl | hRest
      · rcases hMantissa c hFront with hChar | rfl
        · exact isSolid_of_isNumeralChar hChar
        · rfl
      · rcases hSign with rfl | rfl <;> rfl
      · exact isSolid_of_isNumeralChar (hChars c hRest)

namespace Operand

/-
  The operands that the scanner reads to their end wherever
  they begin at the top level: strings that continue no line
  over a carriage return and a line feed, and all others but
  regular expressions.
-/
def isPlain : Operand → Bool
  | string l => decide (StringPart.broken ∉ l.parts)
  | regexp _ _ => false
  | stepped o _ _ => o.isPlain
  | _ => true

variable {last : Option (List UInt8)}
variable {before ahead : List UInt8}

/- Solid characters are read as code up to the last one. -/
theorem exists_reads_solid
    {cs : List Char}
    (last : Option (List UInt8))
    (before ahead : List UInt8)
    (hSome : cs ≠ [])
    (hSolid : ∀ c ∈ cs, isSolid c = true) :
    ∃ cells,
      Reads ⟨.top, last⟩ before (encode cs) ahead cells
        ⟨.top, some ((encode cs).reverse ++ before)⟩ :=
  ⟨_, reads_solid
    (List.ne_nil_of_length_pos (length_encode_pos hSome))
    (solid_encode hSolid)⟩

theorem NamePart.text_ne_nil
    (p : NamePart) :
    p.text ≠ [] := by
  cases p <;> exact List.cons_ne_nil _ _

theorem NumeralToken.text_ne_nil
    {n : NumeralToken}
    (hFits : n.Fits) :
    n.text ≠ [] := by
  cases n with
  | word cs =>
      rcases hFits.1 with ⟨d, hDigit, -⟩
      exact List.ne_nil_of_mem hDigit
  | fraction whole cs => simp [NumeralToken.text]
  | power mantissa sign cs => simp [NumeralToken.text]

/- A string that is read to its end. -/
theorem reads_string
    {l : StringLiteral}
    (hWhole : StringPart.broken ∉ l.parts) :
    ∃ cells,
      Reads ⟨.top, last⟩ before
        (encode (l.quote :: (l.body ++ [l.quote]))) ahead cells
        ⟨.top,
          some ((encode (l.quote :: (l.body ++ [l.quote]))).reverse
            ++ before)⟩ := by
  have hAscii := (quotes_ascii l.quote_mem).1
  have hBytes :
      encode (l.quote :: (l.body ++ [l.quote])) =
        byte l.quote :: (encode l.body ++ [byte l.quote]) := by
    rw [encode_cons_ascii _ hAscii, encode_append,
      encode_cons_ascii _ hAscii, encode_nil]
  have hOpen : staysOpen (closes l.quote) l.body = true :=
    staysOpen_parts l.quote_mem l.fits hWhole
  have hLast :
      (byte l.quote :: (encode l.body ++ [byte l.quote])).reverse
          ++ before =
        byte l.quote :: ((encode l.body).reverse ++
          byte l.quote :: before) := by
    simp
  rw [hBytes, hLast]
  exact ⟨_, reads_delimited l.quote_mem hOpen l.closes_quote⟩

/-
  A plain operand is read to its end, and its last byte comes
  to be the last significant one.
-/
theorem exists_reads
    {o : Operand}
    (last : Option (List UInt8))
    (before ahead : List UInt8)
    (hFits : o.Fits)
    (hPlain : o.isPlain = true) :
    ∃ cells,
      Reads ⟨.top, last⟩ before (encode o.text) ahead cells
        ⟨.top, some ((encode o.text).reverse ++ before)⟩ := by
  induction o generalizing last before ahead with
  | name parts =>
      apply exists_reads_solid
      · rcases List.exists_cons_of_ne_nil hFits.1 with
          ⟨p, rest, rfl⟩
        have hFirst := NamePart.text_ne_nil p
        simp [text, hFirst]
      · intro c hMember
        rcases List.mem_flatMap.mp hMember with ⟨p, hPart, hChar⟩
        exact NamePart.isSolid_text (hFits.2 p hPart) c hChar
  | numeral n =>
      exact
        exists_reads_solid last before ahead
          (NumeralToken.text_ne_nil hFits) (NumeralToken.isSolid_text hFits)
  | string l => exact reads_string (of_decide_eq_true hPlain)
  | regexp body flags => cases hPlain
  | closed bracket =>
      apply exists_reads_solid last before ahead
        (List.cons_ne_nil _ _)
      intro c hChar
      rw [List.mem_singleton.mp hChar]
      rcases hFits with rfl | rfl <;> rfl
  | stepped o gap sign ih =>
      rcases hFits with ⟨hOperand, hGap, hSign⟩
      have hSolid : ∀ c ∈ [sign, sign], isSolid c = true := by
        intro c hChar
        have hSame : c = sign := by simpa using hChar
        rw [hSame]
        rcases hSign with rfl | rfl <;> rfl
      have hBytes :
          encode (stepped o gap sign).text =
            encode o.text ++
              (encode (gapText gap) ++ encode [sign, sign]) := by
        rw [text, encode_append, encode_append, List.append_assoc]
      rcases ih last before
          (encode (gapText gap) ++ (encode [sign, sign] ++ ahead))
          hOperand hPlain with
        ⟨cells, hFirst⟩
      have hPasses :
          Passes (some ((encode o.text).reverse ++ before))
            ((encode o.text).reverse ++ before)
            (encode (gapText gap)) (encode [sign, sign] ++ ahead)
            (gap.any GapPart.isWide) :=
        passes_gap hGap
      rcases hPasses with ⟨others, later, hGapReads, -⟩
      rcases exists_reads_solid later
          ((encode (gapText gap)).reverse ++
            ((encode o.text).reverse ++ before))
          ahead (List.cons_ne_nil sign [sign]) hSolid with
        ⟨signs, hSigns⟩
      have hRest := hGapReads.append hSigns
      rw [← List.append_assoc] at hFirst
      rw [hBytes, List.reverse_append, List.reverse_append,
        List.append_assoc, List.append_assoc]
      exact ⟨_, hFirst.append hRest⟩

end Operand

end Devirt

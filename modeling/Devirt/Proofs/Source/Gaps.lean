import Devirt.Proofs.Source.Strings

/-
  What may stand between two tokens.

  Blanks and comments lead from the top level to the top level.
  They leave the last significant byte where it is, but for
  those blanks that the scanner does not know: vertical tabs and
  all that are not ASCII.  These are significant for it, and no
  regular expression may begin behind them.

  The scanner ends a line comment at a line feed only, and a
  block comment at a slash behind any asterisk, the opening one
  included.

  Main declarations:
    * `Scanner.significant_of_high`, `Scanner.mem_of_byte_mem`
    * `GapPart`, `gapText`
    * `Scanner.reads_lineComment`, `Scanner.reads_blockComment`,
      `Scanner.exists_reads_gap`
-/

------------------------------------------------------------
-- Bytes that are not ASCII
------------------------------------------------------------

namespace Devirt

namespace Scanner

open CodeMap

/- A byte that ends an operand by itself. -/
structure IsSignificant (b : UInt8) : Prop where
  inert : IsInert b
  space : isSpace b = false
  opener : openers.contains b = false
  identifier : isIdentifier b = false

/- No regular expression begins behind it. -/
theorem IsSignificant.disallows
    {b : UInt8}
    (hByte : IsSignificant b)
    (before : List UInt8) :
    regexAllowed (some (b :: before)) = false := by
  rw [regexAllowed_cons, hByte.opener, hByte.identifier]
  rfl

/- Bytes that are not ASCII are names or marks of names. -/
theorem significant_of_high
    {b : UInt8}
    (hHigh : 128 ≤ b) :
    IsSignificant b := by
  have hAll :
      ∀ n : Fin 256,
        128 ≤ UInt8.ofNat n →
          isQuote (UInt8.ofNat n) = false ∧
            UInt8.ofNat n ≠ slash ∧
              isSpace (UInt8.ofNat n) = false ∧
                openers.contains (UInt8.ofNat n) = false ∧
                  isIdentifier (UInt8.ofNat n) = false := by
    decide +kernel
  have hByte := hAll ⟨b.toNat, b.toNat_lt⟩
  simp only [UInt8.ofNat_toNat] at hByte
  rcases hByte hHigh with
    ⟨hQuote, hSlash, hSpace, hOpener, hIdentifier⟩
  exact ⟨⟨hQuote, hSlash⟩, hSpace, hOpener, hIdentifier⟩

/- An ASCII byte is that of a character. -/
theorem mem_of_byte_mem
    {c : Char}
    {cs : List Char}
    (hAscii : c.toNat < 128)
    (hMember : byte c ∈ encode cs) :
    c ∈ cs := by
  rcases List.mem_flatMap.mp hMember with ⟨d, hChar, hByte⟩
  by_cases hOther : d.toNat < 128
  · rw [utf8EncodeChar_ascii hOther, List.mem_singleton] at hByte
    rwa [byte_injective hAscii hOther hByte]
  · have hHigh :=
      utf8EncodeChar_high (Nat.not_lt.mp hOther) _ hByte
    exact absurd (byte_ascii hAscii) (UInt8.not_lt.mpr hHigh)

------------------------------------------------------------
-- Comments
------------------------------------------------------------

variable {last : Option (List UInt8)}
variable {before ahead : List UInt8}

theorem reads_lineBody
    {bytes : List UInt8}
    (hLine : lineFeed ∉ bytes) :
    Reads ⟨.lineComment, last⟩ before bytes ahead
      (literalCells bytes) ⟨.lineComment, last⟩ := by
  induction bytes generalizing before with
  | nil => exact .nil _ _ _
  | cons b bytes ih =>
      rw [List.mem_cons, not_or] at hLine
      refine .cons ?_ (ih hLine.2)
      simp [step, Ne.symm hLine.1]

/- A line comment ends with its line feed. -/
theorem reads_lineComment
    {cs : List Char}
    (hLine : '\n' ∉ cs) :
    Reads ⟨.top, last⟩ before
      (encode ('/' :: '/' :: (cs ++ ['\n']))) ahead
      (literalCells (slash :: slash :: encode cs) ++
        [⟨lineFeed, true⟩])
      ⟨.top, last⟩ := by
  have hBytes :
      encode ('/' :: '/' :: (cs ++ ['\n'])) =
        slash :: slash :: (encode cs ++ [lineFeed]) := by
    rw [encode_cons_ascii _ (by decide),
      encode_cons_ascii _ (by decide), encode_append]
    rfl
  have hBody : lineFeed ∉ encode cs :=
    fun hFeed => hLine (mem_of_byte_mem (by decide) hFeed)
  rw [hBytes]
  exact
    .cons rfl (.cons rfl ((reads_lineBody hBody).append (.one rfl)))

theorem reads_blockHigh
    {bytes : List UInt8}
    (star : Bool)
    (hSome : bytes ≠ [])
    (hHigh : ∀ b ∈ bytes, 128 ≤ b) :
    Reads ⟨.blockComment star, last⟩ before bytes ahead
      (literalCells bytes) ⟨.blockComment false, last⟩ := by
  induction bytes generalizing star before with
  | nil => exact absurd rfl hSome
  | cons b bytes ih =>
      rcases List.forall_mem_cons.mp hHigh with ⟨hHere, hRest⟩
      have hOther := (significant_of_high hHere).inert.slash
      have hStar : b ≠ asterisk := by
        rintro rfl
        exact absurd hHere (by decide)
      have hStep :
          step ⟨.blockComment star, last⟩ before b
              (bytes ++ ahead) =
            (false, ⟨.blockComment false, last⟩) := by
        simp [step, hOther, hStar]
      by_cases hNone : bytes = []
      · subst hNone
        exact .one hStep
      · exact .cons hStep (ih false hNone hRest)

theorem reads_blockChar
    {star : Bool}
    {c : Char}
    (hOpen : star = true → c ≠ '/') :
    Reads ⟨.blockComment star, last⟩ before
      (String.utf8EncodeChar c) ahead
      (literalCells (String.utf8EncodeChar c))
      ⟨.blockComment (c == '*'), last⟩ := by
  by_cases hAscii : c.toNat < 128
  · have hSame :
        ∀ mark : Char,
          mark.toNat < 128 → (byte c == byte mark) = (c == mark) := by
      intro mark hMark
      rw [Bool.eq_iff_iff, beq_iff_eq, beq_iff_eq]
      exact
        ⟨byte_injective hAscii hMark, fun hSame => by rw [hSame]⟩
    have hClose : (byte c == slash && star) = false := by
      cases star with
      | false => rw [Bool.and_false]
      | true =>
          rw [Bool.and_true, slash, hSame '/' (by decide)]
          exact beq_eq_false_iff_ne.mpr (hOpen rfl)
    rw [utf8EncodeChar_ascii hAscii]
    apply Reads.one
    simp only [step, hClose, Bool.false_eq_true, if_false,
      asterisk, hSame '*' (by decide)]
  · have hHigh := Nat.not_lt.mp hAscii
    have hStar : (c == '*') = false := by
      rw [beq_eq_false_iff_ne]
      rintro rfl
      exact absurd hHigh (by decide)
    have hSome : String.utf8EncodeChar c ≠ [] := by
      rcases utf8EncodeChar_cases c with
        ⟨b, hBytes, -⟩ | ⟨b, rest, hBytes, -, -⟩ <;>
          simp [hBytes]
    rw [hStar]
    exact reads_blockHigh star hSome (utf8EncodeChar_high hHigh)

/-
  Behind an asterisk or not, characters stay in a block comment
  that hold no slash behind an asterisk.
-/
theorem exists_reads_blockBody
    {star : Bool}
    {cs : List Char}
    (hOpen :
      ¬ ['*', '/'] <:+: if star then '*' :: cs else cs) :
    ∃ next,
      Reads ⟨.blockComment star, last⟩ before (encode cs) ahead
        (literalCells (encode cs))
        ⟨.blockComment next, last⟩ := by
  induction cs generalizing star before with
  | nil => exact ⟨star, .nil _ _ _⟩
  | cons c cs ih =>
      have hRest :
          ¬ ['*', '/'] <:+: if c == '*' then '*' :: cs else cs := by
        intro hInfix
        apply hOpen
        have hHere : ['*', '/'] <:+: c :: cs := by
          split_ifs at hInfix with hStar
          · rwa [eq_of_beq hStar]
          · exact hInfix.trans (List.suffix_cons c cs).isInfix
        split_ifs
        · exact hHere.trans (List.suffix_cons '*' _).isInfix
        · exact hHere
      have hChar :
          Reads ⟨.blockComment star, last⟩ before
            (String.utf8EncodeChar c) (encode cs ++ ahead)
            (literalCells (String.utf8EncodeChar c))
            ⟨.blockComment (c == '*'), last⟩ := by
        apply reads_blockChar
        rintro rfl rfl
        exact hOpen (List.prefix_append ['*', '/'] cs).isInfix
      rcases ih hRest with ⟨next, hReads⟩
      refine ⟨next, ?_⟩
      rw [encode_cons, literalCells_append]
      exact hChar.append hReads

/-
  A block comment ends with the first slash behind an asterisk.
-/
theorem reads_blockComment
    {cs : List Char}
    (hOpen : ¬ ['*', '/'] <:+: '*' :: cs) :
    Reads ⟨.top, last⟩ before
      (encode ('/' :: '*' :: (cs ++ ['*', '/']))) ahead
      (literalCells
        (encode ('/' :: '*' :: (cs ++ ['*', '/']))))
      ⟨.top, last⟩ := by
  have hBytes :
      encode ('/' :: '*' :: (cs ++ ['*', '/'])) =
        slash :: asterisk :: (encode cs ++ [asterisk, slash]) := by
    rw [encode_cons_ascii _ (by decide),
      encode_cons_ascii _ (by decide), encode_append]
    rfl
  have hBody :
      ∃ next,
        Reads ⟨.blockComment true, last⟩
          (asterisk :: slash :: before) (encode cs)
          ([asterisk, slash] ++ ahead)
          (literalCells (encode cs))
          ⟨.blockComment next, last⟩ :=
    exists_reads_blockBody hOpen
  rcases hBody with ⟨next, hBody⟩
  have hClose :
      Reads ⟨.blockComment next, last⟩
        ((encode cs).reverse ++ asterisk :: slash :: before)
        [asterisk, slash] ahead
        (literalCells [asterisk, slash]) ⟨.top, last⟩ :=
    .cons rfl (.one rfl)
  have hRest := hBody.append hClose
  rw [← literalCells_append] at hRest
  rw [hBytes]
  exact .cons rfl (.cons rfl hRest)

end Scanner

end Devirt

------------------------------------------------------------
-- Gaps
------------------------------------------------------------

namespace Devirt

open Scanner CodeMap

inductive GapPart where
  /- a blank or line end -/
  | blank (c : Char)
  /- a line comment with its line end -/
  | lineComment (cs : List Char) (ending : LineEnd)
  | blockComment (cs : List Char)

namespace GapPart

def text : GapPart → List Char
  | blank c => [c]
  | lineComment cs ending => '/' :: '/' :: (cs ++ ending.text)
  | blockComment cs => '/' :: '*' :: (cs ++ ['*', '/'])

/-
  What the scanner reads as part of a gap: line comments that
  end with line feeds, and block comments that begin with no
  slash.
-/
def Fits : GapPart → Prop
  | blank c =>
      Script.Lexer.isSpace c = true ∨
        Script.Lexer.isLineEnd c = true
  | lineComment cs ending =>
      (∀ c ∈ cs, Script.Lexer.isLineEnd c = false) ∧
        (ending = .lineFeed ∨ ending = .carriageReturnLineFeed)
  | blockComment cs => ¬ ['*', '/'] <:+: '*' :: cs

instance (p : GapPart) : Decidable p.Fits :=
  match p with
  | blank _ => inferInstanceAs (Decidable (_ ∨ _))
  | lineComment _ _ => inferInstanceAs (Decidable (_ ∧ _))
  | blockComment _ => inferInstanceAs (Decidable (¬ _))

/- The blanks that are significant for the scanner. -/
def isWide : GapPart → Bool
  | blank c => c == '\x0b' || decide (128 ≤ c.toNat)
  | _ => false

end GapPart

def gapText (gap : List GapPart) : List Char :=
  gap.flatMap GapPart.text

namespace Scanner

variable {last : Option (List UInt8)}
variable {before ahead : List UInt8}

/- Bytes that neither open anything nor are blank. -/
structure IsSolid (b : UInt8) : Prop where
  inert : IsInert b
  space : isSpace b = false

theorem IsSignificant.solid
    {b : UInt8}
    (hByte : IsSignificant b) :
    IsSolid b :=
  ⟨hByte.inert, hByte.space⟩

/- Such bytes are all code, and the last one is significant. -/
theorem reads_solid
    {bytes : List UInt8}
    (hSome : bytes ≠ [])
    (hSolid : ∀ b ∈ bytes, IsSolid b) :
    Reads ⟨.top, last⟩ before bytes ahead (codeCells bytes)
      ⟨.top, some (bytes.reverse ++ before)⟩ := by
  induction bytes generalizing last before with
  | nil => exact absurd rfl hSome
  | cons b bytes ih =>
      rcases List.forall_mem_cons.mp hSolid with ⟨hHere, hRest⟩
      have hStep :
          step ⟨.top, last⟩ before b (bytes ++ ahead) =
            (true, ⟨.top, some (b :: before)⟩) := by
        simp [step, stepTop, hHere.inert.quote,
          hHere.inert.slash, hHere.space]
      by_cases hNone : bytes = []
      · subst hNone
        exact .one hStep
      · rw [List.reverse_cons, List.append_assoc]
        exact .cons hStep (ih hNone hRest)

/- A blank of the scanner changes nothing. -/
theorem reads_space
    {b : UInt8}
    (hSpace : isSpace b = true) :
    Reads ⟨.top, last⟩ before [b] ahead [⟨b, true⟩]
      ⟨.top, last⟩ := by
  have hInert := isSpace_inert hSpace
  apply Reads.one
  simp [step, stepTop, hInert.1, hInert.2.1, hSpace]

/-
  Bytes lead from the top level to the top level.  They leave
  the last significant byte, unless they hold one behind which
  no regular expression begins.
-/
def Passes
    (last : Option (List UInt8))
    (before bytes ahead : List UInt8)
    (wide : Bool) :
    Prop :=
  ∃ cells later,
    Reads ⟨.top, last⟩ before bytes ahead cells ⟨.top, later⟩ ∧
      if wide then regexAllowed later = false else later = last

theorem Passes.append
    {bytes more : List UInt8}
    {wide wider : Bool}
    (hFirst : Passes last before bytes (more ++ ahead) wide)
    (hSecond :
      ∀ last, Passes last (bytes.reverse ++ before) more ahead
        wider) :
    Passes last before (bytes ++ more) ahead
      (wide || wider) := by
  rcases hFirst with ⟨cells, middle, hReads, hMiddle⟩
  rcases hSecond middle with ⟨others, later, hMore, hLater⟩
  refine ⟨cells ++ others, later, hReads.append hMore, ?_⟩
  cases wider with
  | true => simpa using hLater
  | false =>
      have hSame : later = middle := hLater
      rw [hSame, Bool.or_false]
      exact hMiddle

theorem passes_blank
    {c : Char}
    (hFits : (GapPart.blank c).Fits) :
    Passes last before (encode [c]) ahead
      (GapPart.blank c).isWide := by
  by_cases hAscii : c.toNat < 128
  · have hAll :
        ∀ n : Fin 128,
          (GapPart.blank (Char.ofNat n)).Fits →
            isSpace (byte (Char.ofNat n)) = true ∧
                (GapPart.blank (Char.ofNat n)).isWide = false ∨
              Char.ofNat n = '\x0b' := by
      simp only [GapPart.Fits]
      decide +kernel
    have hCases := hAll ⟨c.toNat, hAscii⟩
    simp only [Char.ofNat_toNat] at hCases
    rcases hCases hFits with ⟨hSpace, hNarrow⟩ | rfl
    · rw [encode_cons_ascii _ hAscii, encode_nil, hNarrow]
      exact ⟨_, last, reads_space hSpace, rfl⟩
    · exact ⟨_, _, .one rfl, rfl⟩
  · have hHigh := Nat.not_lt.mp hAscii
    have hWide : (GapPart.blank c).isWide = true := by
      simp [GapPart.isWide, hHigh]
    have hBytes : ∀ b ∈ encode [c], IsSignificant b := by
      rw [encode_cons, encode_nil, List.append_nil]
      exact fun b hByte =>
        significant_of_high (utf8EncodeChar_high hHigh b hByte)
    rcases List.eq_nil_or_concat' (encode [c]) with
      hNil | ⟨front, b, hConcat⟩
    · have hPos := length_encode_pos (List.cons_ne_nil c [])
      rw [hNil] at hPos
      exact absurd hPos (by decide)
    · rw [hWide]
      rw [hConcat] at hBytes ⊢
      refine
        ⟨_, _,
          reads_solid (by simp) fun b hByte =>
            (hBytes b hByte).solid, ?_⟩
      rw [List.reverse_append]
      exact (hBytes b (by simp)).disallows _

theorem passes_gapPart
    {p : GapPart}
    (hFits : p.Fits) :
    Passes last before (encode p.text) ahead p.isWide := by
  cases p with
  | blank c => exact passes_blank hFits
  | lineComment cs ending =>
      rcases hFits with ⟨hLine, hEnding⟩
      have hFeed : '\n' ∉ cs := fun hFeed =>
        absurd (hLine '\n' hFeed) (by decide)
      rcases hEnding with rfl | rfl
      · exact ⟨_, last, reads_lineComment hFeed, rfl⟩
      · -- the return belongs to the comment
        have hReturn : '\n' ∉ cs ++ ['\r'] := by
          simp [hFeed]
        have hText :
            (GapPart.lineComment cs
                .carriageReturnLineFeed).text =
              '/' :: '/' :: ((cs ++ ['\r']) ++ ['\n']) := by
          simp [GapPart.text, LineEnd.text]
        rw [hText]
        exact ⟨_, last, reads_lineComment hReturn, rfl⟩
  | blockComment cs =>
      exact ⟨_, last, reads_blockComment hFits, rfl⟩

/- A gap leads from the top level to the top level. -/
theorem passes_gap
    {gap : List GapPart}
    (hFits : ∀ p ∈ gap, p.Fits) :
    Passes last before (encode (gapText gap)) ahead
      (gap.any GapPart.isWide) := by
  induction gap generalizing last before with
  | nil => exact ⟨[], last, .nil _ _ _, rfl⟩
  | cons p gap ih =>
      rcases List.forall_mem_cons.mp hFits with ⟨hHere, hRest⟩
      rw [gapText, List.flatMap_cons, encode_append,
        List.any_cons]
      exact (passes_gapPart hHere).append fun last => ih hRest

end Scanner

end Devirt

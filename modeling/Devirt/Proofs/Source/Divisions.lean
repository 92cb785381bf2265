import Devirt.Proofs.Source.Operands

/-
  Slashes behind operands.

  Behind an operand a slash divides.  The scanner looks for a
  regular expression behind operands that it does not know, and
  if it finds one, the slash begins a literal for it; in all
  other cases the slash is a division, and what follows is
  code.

  Main declarations:
    * `DivisionSite`, `DivisionSite.operandRead_of_topAt`
    * `CodeMap.IsDivision`, `divisions_kept_iff`,
      `quotient_kept`, `steppedQuotient_broken`
-/

------------------------------------------------------------
-- Divisions
------------------------------------------------------------

namespace Devirt

open Scanner CodeMap

/-
  A slash behind an operand and a gap, which begins no comment.
-/
structure DivisionSite where
  before : List Char
  operand : Operand
  gap : List GapPart
  after : List Char
  fits : operand.Fits
  apart : operand.StandsApart before
  gapFits : ∀ p ∈ gap, p.Fits
  noComment : ∀ c ∈ after.head?, c ≠ '/' ∧ c ≠ '*'

namespace DivisionSite

/- What stands before the slash. -/
def front (d : DivisionSite) : List Char :=
  d.before ++ d.operand.text ++ gapText d.gap

def code (d : DivisionSite) : String :=
  String.ofList (d.front ++ '/' :: d.after)

/- The offset of the slash. -/
def offset (d : DivisionSite) : Nat :=
  (encode d.front).length

/-
  The scanner has read the operand: it is at the top level
  behind it, and the last byte of the operand is the last
  significant one.
-/
def OperandRead (d : DivisionSite) : Prop :=
  stateAt (bytesOf d.code)
      (encode (d.before ++ d.operand.text)).length =
    ⟨.top, some (encode (d.before ++ d.operand.text)).reverse⟩

end DivisionSite

/-
  The slash at an offset is read as a division: it is code, the
  scanner stays at the top level behind it, and what follows is
  code up to the next quote or slash.
-/
structure CodeMap.IsDivision
    (code : String)
    (offset : Nat) :
    Prop where
  here : (ofText code).HasCode offset slash
  top : TopAt (bytesOf code) (offset + 1)
  behind :
    ∀ stop,
      stop ≤ (bytesOf code).length →
        (∀ index b,
          offset < index → index < stop →
            (bytesOf code)[index]? = some b → IsInert b) →
          (ofText code).IsAllCode offset stop

/- Inert bytes behind the top level are code. -/
theorem topAt_of_inert
    {bytes : List UInt8}
    {start stop : Nat}
    (hTop : TopAt bytes start)
    (hOrder : start ≤ stop)
    (hInside : stop ≤ bytes.length)
    (hInert :
      ∀ index b,
        start ≤ index → index < stop →
          bytes[index]? = some b → IsInert b) :
    TopAt bytes stop := by
  induction stop, hOrder using Nat.le_induction with
  | base => exact hTop
  | succ stop hOrder ih =>
      have hByte := List.getElem?_eq_getElem hInside
      have hHere := hInert stop _ hOrder (Nat.lt_succ_self _) hByte
      have hBefore :=
        ih (Nat.le_of_succ_le hInside) fun index b hStart hStop =>
          hInert index b hStart (Nat.lt_succ_of_lt hStop)
      exact topAt_succ hBefore hByte hHere.quote hHere.slash

theorem isDivision_of_topAt
    {code : String}
    {offset : Nat}
    (hSlash : (ofText code).HasCode offset slash)
    (hTop : TopAt (bytesOf code) (offset + 1)) :
    IsDivision code offset := by
  refine ⟨hSlash, hTop, ?_⟩
  intro stop hInside hInert index hStart hStop
  rcases Nat.eq_or_lt_of_le hStart with rfl | hLater
  · exact hSlash.isCode_eq
  · have hHere : TopAt (bytesOf code) index := by
      apply topAt_of_inert hTop hLater (by omega)
      intro place b hFrom hTo
      exact hInert place b hFrom (by omega)
    have hByte : (bytesOf code)[index]? = some (bytesOf code)[index] :=
      List.getElem?_eq_getElem (by omega)
    have hByteInert := hInert index _ hLater hStop hByte
    exact isCode_of_topAt hHere hByte hByteInert.slash

/- A slash that begins no comment is code, and may divide. -/
theorem stepTop_slash
    {after : List UInt8}
    (last : Option (List UInt8))
    (before : List UInt8)
    (hLine : after.head? ≠ some slash)
    (hBlock : after.head? ≠ some asterisk) :
    (stepTop last before slash after).1 = true ∧
      ((stepTop last before slash after).2.mode = .top ↔
        regexAllowed last = false ∨
          regexLength? false false 0 after = none) := by
  have hQuote : isQuote slash = false := by decide
  have hSpace : isSpace slash = false := by decide
  simp only [stepTop, hQuote, hSpace, beq_self_eq_true,
    Bool.true_and, beq_iff_eq, hLine, hBlock, if_false,
    Bool.false_eq_true]
  cases hAllowed : regexAllowed last with
  | false => simp
  | true =>
      cases hLength : regexLength? false false 0 after with
      | none => simp
      | some n => simp

namespace DivisionSite

/- No comment begins with the slash. -/
theorem head?_after
    (d : DivisionSite) :
    (encode d.after).head? ≠ some slash ∧
      (encode d.after).head? ≠ some asterisk := by
  have hHead :
      ∀ mark : Char,
        mark.toNat < 128 → d.after.head? ≠ some mark →
          (encode d.after).head? ≠ some (byte mark) := by
    intro mark hMark hOther
    cases hChars : d.after with
    | nil => simp
    | cons c rest =>
        have hChar : c ≠ mark := by simpa [hChars] using hOther
        rcases exists_first_byte hMark hChar with
          ⟨b, bytes, hBytes, hFirst⟩
        simpa [encode_cons, hBytes] using hFirst
  have hNone : ∀ mark, mark = '/' ∨ mark = '*' →
      d.after.head? ≠ some mark := by
    rintro mark hMark hHere
    rcases d.noComment mark hHere with ⟨hSlash, hAsterisk⟩
    exact hMark.elim hSlash hAsterisk
  exact
    ⟨hHead '/' (by decide) (hNone '/' (Or.inl rfl)),
      hHead '*' (by decide) (hNone '*' (Or.inr rfl))⟩

/- The bytes of a site up to the operand and from the gap on. -/
theorem bytes_eq
    (d : DivisionSite) :
    bytesOf d.code =
      encode (d.before ++ d.operand.text) ++
        (encode (gapText d.gap) ++ slash :: encode d.after) := by
  rw [bytesOf_eq_encode, code, String.toList_ofList,
    encode_append, front, encode_append, List.append_assoc,
    encode_cons_ascii _ (by decide)]
  rfl

/- It has read every plain operand that begins at the top. -/
theorem operandRead_of_topAt
    {d : DivisionSite}
    (hTop : TopAt (bytesOf d.code) (encode d.before).length)
    (hPlain : d.operand.isPlain = true) :
    d.OperandRead := by
  have hBytes :
      bytesOf d.code =
        encode d.before ++
          (encode d.operand.text ++
            (encode (gapText d.gap) ++ slash :: encode d.after)) := by
    rw [d.bytes_eq, encode_append, List.append_assoc]
  rcases hTop.exists_eq with ⟨last, hState⟩
  rcases Operand.exists_reads last (encode d.before).reverse
      (encode (gapText d.gap) ++ slash :: encode d.after) d.fits
      hPlain with
    ⟨cells, hReads⟩
  have hIn :
      ReadsIn (encode d.before) (encode d.operand.text)
        (encode (gapText d.gap) ++ slash :: encode d.after) cells
        ⟨.top,
          some ((encode d.operand.text).reverse ++
            (encode d.before).reverse)⟩ := by
    unfold ReadsIn
    rw [← hBytes, hState]
    exact hReads
  have hBehind := hIn.stateAt_eq
  rw [← hBytes, ← List.length_append, ← encode_append,
    ← List.reverse_append, ← encode_append] at hBehind
  exact hBehind

/- The scanner comes to the slash at the top level. -/
theorem exists_state
    {d : DivisionSite}
    (hRead : d.OperandRead) :
    ∃ last,
      stateAt (bytesOf d.code) d.offset = ⟨.top, last⟩ ∧
        (regexAllowed last = false ↔
          d.operand.isFirm = true ∨
            d.gap.any GapPart.isWide = true) := by
  rcases passes_gap d.gapFits with ⟨cells, later, hReads, hLast⟩
  have hIn :
      ReadsIn (encode (d.before ++ d.operand.text))
        (encode (gapText d.gap)) (slash :: encode d.after) cells
        ⟨.top, later⟩ := by
    unfold ReadsIn
    rw [← d.bytes_eq, hRead]
    exact hReads
  have hState := hIn.stateAt_eq
  have hOffset :
      d.offset =
        (encode (d.before ++ d.operand.text)).length +
          (encode (gapText d.gap)).length := by
    rw [offset, front, encode_append, List.length_append]
  rw [← d.bytes_eq, ← hOffset] at hState
  have hOperand := Operand.regexAllowed_eq d.fits d.apart
  refine ⟨later, hState, ?_⟩
  cases hWide : d.gap.any GapPart.isWide with
  | true =>
      rw [hWide] at hLast
      simpa using hLast
  | false =>
      rw [hWide] at hLast
      have hSame :
          later =
            some (encode (d.before ++ d.operand.text)).reverse :=
        hLast
      rw [hSame, hOperand]
      simp

end DivisionSite

/-
  Behind an operand that the scanner has read, a slash is kept
  as a division exactly if the scanner knows the operand, a
  blank stands between them that it does not know, or no
  regular expression could begin with the slash.
-/
theorem divisions_kept_iff
    {d : DivisionSite}
    (hRead : d.OperandRead) :
    IsDivision d.code d.offset ↔
      d.operand.isFirm = true ∨
        d.gap.any GapPart.isWide = true ∨
          regexLength? false false 0 (encode d.after) =
            none := by
  rcases d.exists_state hRead with ⟨last, hState, hLast⟩
  rcases d.head?_after with ⟨hLine, hBlock⟩
  have hBytes :
      bytesOf d.code = encode d.front ++ slash :: encode d.after := by
    rw [d.bytes_eq, DivisionSite.front, ← List.append_assoc,
      ← encode_append]
  have hByte : (bytesOf d.code)[d.offset]? = some slash := by
    rw [hBytes, DivisionSite.offset]
    simp
  have hAfter :
      (bytesOf d.code).drop (d.offset + 1) = encode d.after := by
    rw [hBytes, DivisionSite.offset]
    simp
  have hStep :
      stepAt (bytesOf d.code) d.offset slash =
        stepTop last ((bytesOf d.code).take d.offset).reverse slash
          (encode d.after) := by
    unfold stepAt
    rw [hState, hAfter]
    rfl
  have hSlash :=
    stepTop_slash last
      ((bytesOf d.code).take d.offset).reverse hLine hBlock
  rw [← hStep] at hSlash
  have hCode : (ofText d.code).HasCode d.offset slash := by
    unfold ofText
    rw [hasCode_ofBytes_iff, flags_getElem? hByte, hSlash.1]
    exact ⟨hByte, rfl⟩
  have hTop :
      TopAt (bytesOf d.code) (d.offset + 1) ↔
        regexAllowed last = false ∨
          regexLength? false false 0 (encode d.after) = none := by
    unfold TopAt
    rw [stateAt_succ hByte]
    exact hSlash.2
  rw [← or_assoc, ← hLast, ← hTop]
  exact
    ⟨fun hDivision => hDivision.top, isDivision_of_topAt hCode⟩

/- Two divisions of names on one line, of which this is one. -/
def quotient : DivisionSite where
  before := ['x', ' ', '=', ' ']
  operand := .name [.char 'i', .char 'n', .char '2']
  gap := [.blank ' ', .blockComment ['*', ' ']]
  after := ['b', '/', 'c']
  fits := by
    unfold Operand.Fits
    decide +kernel
  apart := by
    unfold Operand.StandsApart
    decide +kernel
  gapFits := by
    decide +kernel
  noComment := by simp

theorem quotient_kept :
    quotient.OperandRead ∧
      IsDivision quotient.code quotient.offset := by
  have hRead : quotient.OperandRead := by
    unfold DivisionSite.OperandRead
    decide +kernel
  have hFirm : quotient.operand.isFirm = true := by
    decide +kernel
  exact ⟨hRead, (divisions_kept_iff hRead).mpr (Or.inl hFirm)⟩

/- The first slash divides what has just been increased. -/
def steppedQuotient : DivisionSite where
  before := []
  operand := .stepped (.name [.char 'a']) [] '+'
  gap := []
  after := ['b', '/', 'c']
  fits := by
    unfold Operand.Fits Operand.Fits
    decide +kernel
  apart := trivial
  gapFits := by simp
  noComment := by simp

theorem steppedQuotient_broken :
    steppedQuotient.OperandRead ∧
      (ofText steppedQuotient.code).isCode
          (steppedQuotient.offset + 1) = false ∧
        ¬ IsDivision steppedQuotient.code
            steppedQuotient.offset := by
  have hRead : steppedQuotient.OperandRead := by
    unfold DivisionSite.OperandRead
    decide +kernel
  have hLiteral :
      (ofText steppedQuotient.code).isCode
          (steppedQuotient.offset + 1) =
        false := by
    decide +kernel
  have hMode :
      (stateAt (bytesOf steppedQuotient.code)
          (steppedQuotient.offset + 1)).mode =
        .regex 1 := by
    decide +kernel
  refine ⟨hRead, hLiteral, ?_⟩
  intro hDivision
  have hTop : _ = Mode.top := hDivision.top
  rw [hMode] at hTop
  cases hTop

end Devirt

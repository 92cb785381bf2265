import Devirt.Proofs.Detection.Agreement
import Devirt.Proofs.Source.Keywords
import Devirt.Proofs.Source.Partners

/-
  The labels of a switch statement in arbitrary text.

  Two pairs of braces never cross.  So the braces that are open
  before a place of a body, counted from its opening brace on,
  are those of the pairs inside of the body that stand around
  the place, and its own.  One open brace means that the body is
  the innermost pair around the place.

  Main declarations:
    * `CodeMap.BracePair`, `CodeMap.Innermost`
    * `CodeMap.braceDepth_eq_one_iff`
    * `CodeMap.BodyAt` and `CodeMap.switchBody?_bodyAt`
-/

------------------------------------------------------------
-- Pairs of Braces
------------------------------------------------------------

namespace Devirt

open Scanner

namespace CodeMap

variable {m : CodeMap}

/- The braces at two offsets are partners in the code. -/
def BracePair (m : CodeMap) (opening close : Nat) : Prop :=
  Partners {.curly} m.cells.toList opening close

/- The innermost one of all pairs of braces around an offset. -/
structure Innermost
    (m : CodeMap)
    (offset opening close : Nat) : Prop where
  pair : m.BracePair opening close
  after_opening : opening < offset
  before_close : offset < close
  within :
    ∀ other otherClose,
      m.BracePair other otherClose →
        other < offset → offset < otherClose →
          other ≤ opening ∧ close ≤ otherClose

/- There is only one innermost pair around an offset. -/
theorem Innermost.unique
    {offset opening close other otherClose : Nat}
    (hInnermost : m.Innermost offset opening close)
    (hOther : m.Innermost offset other otherClose) :
    opening = other ∧ close = otherClose := by
  have hOuter :=
    hInnermost.within other otherClose hOther.pair
      hOther.after_opening hOther.before_close
  have hInner :=
    hOther.within opening close hInnermost.pair
      hInnermost.after_opening hInnermost.before_close
  omega

theorem openBraces_eq_balance
    (cells : List Cell) :
    openBraces cells = balance .curly cells := by
  have hFold :
      ∀ depth : Int,
        cells.foldl
            (fun depth c =>
              if !c.isCode then depth
              else if c.byte == byte '{' then depth + 1
              else if c.byte == byte '}' then depth - 1
              else depth)
            depth =
          depth + balance .curly cells := by
    induction cells with
    | nil => simp
    | cons c rest ih =>
        intro depth
        rw [List.foldl_cons, ih, balance_cons, weight]
        rcases c with ⟨b, isCode⟩
        cases isCode with
        | false =>
            simp [Bracket.openingCell, Bracket.closingCell]
        | true =>
            simp [Bracket.openingCell, Bracket.closingCell,
              Bracket.opening, Bracket.closing]
            split_ifs <;> omega
  simpa [openBraces] using hFold 0

/- The braces that are open at an offset since an earlier one. -/
def openAt (m : CodeMap) (start offset : Nat) : Int :=
  openBraces (m.span start offset)

theorem openAt_trans
    {start middle offset : Nat}
    (hMiddle : start ≤ middle)
    (hOffset : middle ≤ offset) :
    m.openAt start offset =
      m.openAt start middle + m.openAt middle offset := by
  unfold openAt
  rw [m.span_append hMiddle hOffset]
  simp only [openBraces_eq_balance, balance_append]

/- From an opening brace on, its own adds one. -/
theorem HasCode.openAt_eq
    {opening offset : Nat}
    (hOpening : m.HasCode opening Bracket.curly.opening)
    (hLater : opening < offset) :
    m.openAt opening offset =
      1 + balance .curly
          ((m.cells.toList.drop (opening + 1)).take
            (offset - (opening + 1))) := by
  obtain ⟨n, rfl⟩ := Nat.exists_eq_add_of_lt hLater
  have hLength : opening + n + 1 - opening = n + 1 := by omega
  have hRest : opening + n + 1 - (opening + 1) = n := by omega
  unfold openAt span
  rw [openBraces_eq_balance, hLength, hRest, hOpening.drop_eq,
    List.take_succ_cons, balance_cons]
  congr 1

theorem BracePair.hasCode
    {opening close : Nat}
    (hPair : m.BracePair opening close) :
    m.HasCode opening Bracket.curly.opening := by
  rcases hPair with
    ⟨k, rfl, before, inner, behind, hCells, -, rfl, -⟩
  unfold HasCode
  rw [← Array.getElem?_toList, hCells, getElem?_here]
  rfl

/- Inside of a pair, at least its own brace is open. -/
theorem BracePair.one_le_openAt
    {opening close offset : Nat}
    (hPair : m.BracePair opening close)
    (hAfter : opening < offset)
    (hBefore : offset ≤ close) :
    1 ≤ m.openAt opening offset := by
  rcases Partners.returns hPair hPair.hasCode with
    ⟨place, rfl, hReturns⟩
  have hOpen :=
    hReturns.open_before (offset - (opening + 1)) (by omega)
  rw [hPair.hasCode.openAt_eq hAfter]
  push_cast at hOpen
  omega

/- Behind a pair, none of its braces is open any more. -/
theorem BracePair.openAt_behind
    {opening close : Nat}
    (hPair : m.BracePair opening close) :
    m.openAt opening (close + 1) = 0 := by
  rcases Partners.returns hPair hPair.hasCode with
    ⟨place, rfl, hReturns⟩
  have hEven := hReturns.even
  have hLength :
      opening + 1 + place + 1 - (opening + 1) = place + 1 := by
    omega
  rw [hPair.hasCode.openAt_eq (by omega), hLength]
  exact_mod_cast hEven

/- A pair that begins inside of another one ends there, too. -/
theorem BracePair.close_le
    {opening close other otherClose : Nat}
    (hPair : m.BracePair opening close)
    (hOther : m.BracePair other otherClose)
    (hOuter : other ≤ opening)
    (hMeet : opening < otherClose) :
    close ≤ otherClose := by
  by_contra hLess
  -- from the other opening brace on nothing is open any more
  have hBehind := hOther.openAt_behind
  rw [openAt_trans hOuter (by omega)] at hBehind
  have hLater : opening < otherClose + 1 := by omega
  have hHere := hPair.one_le_openAt hLater (by omega)
  rcases Nat.eq_or_lt_of_le hOuter with rfl | hStrict
  · have hNone := hOther.openAt_behind
    omega
  · have hThere := hOther.one_le_openAt hStrict hMeet.le
    omega

------------------------------------------------------------
-- Depths and Innermost Pairs
------------------------------------------------------------

/- More than one open brace means that a pair is further in. -/
theorem BracePair.exists_inner
    {opening close offset : Nat}
    (hPair : m.BracePair opening close)
    (hAfter : opening < offset)
    (hBefore : offset < close)
    (hOther : ¬ m.HasCode offset Bracket.curly.closing)
    (hDeep : 1 < m.openAt opening offset) :
    ∃ inside insideClose,
      m.BracePair inside insideClose ∧
        opening < inside ∧ inside < offset ∧
          offset < insideClose := by
  obtain ⟨place, rfl⟩ := Nat.exists_eq_add_of_lt hAfter
  have hCode := hPair.hasCode
  rcases hPair with
    ⟨k, rfl, before, inner, behind, hCells, hInner, rfl, rfl⟩
  have hBehind :
      m.cells.toList.drop (before.length + 1) =
        inner ++ Bracket.curly.closingCell :: behind := by
    rw [hCells, List.drop_length_add_append]
    rfl
  have hInside : place < inner.length := by omega
  have hPlace :
      before.length + place + 1 - (before.length + 1) =
        place := by
    omega
  have hOpen : 0 < balance .curly (inner.take place) := by
    rw [hCode.openAt_eq hAfter, hBehind, hPlace,
      List.take_append_of_le_length hInside.le] at hDeep
    omega
  have hNotClosing :
      ∀ k ∈ ({.curly} : Set Bracket),
        inner[place]? ≠ some k.closingCell := by
    rintro k rfl hClosing
    apply hOther
    unfold HasCode
    rw [← Array.getElem?_toList,
      Nat.add_right_comm before.length place 1,
      ← List.getElem?_drop, hBehind,
      List.getElem?_append_left hInside]
    exact hClosing
  rcases hInner.exists_around rfl hInside hNotClosing hOpen with
    ⟨inside, insideClose, hPartners, hStart, hClose⟩
  have hShifted :=
    hPartners.append (before ++ [Bracket.curly.openingCell])
      (Bracket.curly.closingCell :: behind)
  refine
    ⟨before.length + 1 + inside,
      before.length + 1 + insideClose, ?_, by omega, by omega,
      by omega⟩
  unfold BracePair
  rw [hCells]
  simpa using hShifted

/-
  One brace is open at a place of a pair just if the pair is
  the innermost one around it.
-/
theorem BracePair.openAt_eq_one_iff
    {opening close offset : Nat}
    (hPair : m.BracePair opening close)
    (hAfter : opening < offset)
    (hBefore : offset < close)
    (hOther : ¬ m.HasCode offset Bracket.curly.closing) :
    m.openAt opening offset = 1 ↔
      m.Innermost offset opening close := by
  constructor
  · intro hOne
    refine ⟨hPair, hAfter, hBefore, ?_⟩
    intro other otherClose hPairOther hStart hClose
    have hOuter : other ≤ opening := by
      by_contra hInside
      -- both opening braces would be open
      have hLater : opening < other := by omega
      have hHere := hPair.one_le_openAt hLater (by omega)
      have hThere := hPairOther.one_le_openAt hStart hClose.le
      rw [openAt_trans hLater.le hStart.le] at hOne
      omega
    exact
      ⟨hOuter,
        hPair.close_le hPairOther hOuter (by omega)⟩
  · intro hInnermost
    have hOpen := hPair.one_le_openAt hAfter hBefore.le
    by_contra hNotOne
    rcases hPair.exists_inner hAfter hBefore hOther (by omega)
      with ⟨inside, insideClose, hInside, hFurther, hAround⟩
    have hWithin :=
      hInnermost.within inside insideClose hInside hAround.1
        hAround.2
    omega

/- Inside of a pair the depth is the number of open braces. -/
theorem BracePair.braceDepth_eq
    {opening close offset : Nat}
    (hPair : m.BracePair opening close)
    (hAfter : opening < offset)
    (hBefore : offset ≤ close) :
    (m.braceDepth opening offset : Int) =
      m.openAt opening offset := by
  have hOpen := hPair.one_le_openAt hAfter hBefore
  change ((m.openAt opening offset).toNat : Int) = _
  exact Int.toNat_of_nonneg (by omega)

theorem BracePair.braceDepth_eq_one_iff
    {opening close offset : Nat}
    (hPair : m.BracePair opening close)
    (hAfter : opening < offset)
    (hBefore : offset < close)
    (hOther : ¬ m.HasCode offset Bracket.curly.closing) :
    m.braceDepth opening offset = 1 ↔
      m.Innermost offset opening close := by
  have hDepth := hPair.braceDepth_eq hAfter hBefore.le
  rw [← hPair.openAt_eq_one_iff hAfter hBefore hOther]
  omega

------------------------------------------------------------
-- Labels
------------------------------------------------------------

/- A word that labels a part of a switch statement. -/
def StandsLabel (m : CodeMap) (offset : Nat) : Prop :=
  m.Stands "case" offset ∨ m.Stands "default" offset

theorem mem_labelOffsets_iff_standsLabel
    (m : CodeMap)
    (offset : Nat) :
    offset ∈ m.labelOffsets ↔ m.StandsLabel offset := by
  have hWord := isIdentifierWord_words
  rw [mem_labelOffsets_iff,
    m.mem_keywordOffsets_iff (hWord "case" (by simp)) offset,
    m.mem_keywordOffsets_iff (hWord "default" (by simp)) offset]
  rfl

/- A label is no brace. -/
theorem StandsLabel.not_closing
    {offset : Nat}
    (hLabel : m.StandsLabel offset) :
    ¬ m.HasCode offset Bracket.curly.closing := by
  intro hClosing
  rcases hLabel with hCase | hDefault
  · have hByte :=
      hCase.byte?_eq (b := byte 'c') (by decide +kernel)
    rw [hClosing.byte?_eq] at hByte
    exact absurd hByte (by decide)
  · have hByte :=
      hDefault.byte?_eq (b := byte 'd') (by decide +kernel)
    rw [hClosing.byte?_eq] at hByte
    exact absurd hByte (by decide)

/-
  A body with the offset of its opening brace.  It lies between
  partners, which the search has reached from a keyword, and
  lists each label once for which it is the innermost pair of
  braces.  Within it more braces are open than closed at every
  offset, so a depth is never cut off at zero.
-/
structure BodyAt
    (m : CodeMap)
    (start : Nat)
    (body : SwitchBody)
    (opening : Nat) : Prop where
  reached :
    ∃ paren parenClose,
      m.nextCode start (byte '(') = some paren ∧
        Partners {.round} m.cells.toList paren parenClose ∧
        m.nextCode parenClose (byte '{') = some opening
  pair : m.BracePair opening body.close
  ascending : body.labels.Pairwise (· < ·)
  between :
    ∀ label ∈ body.labels, opening < label ∧ label < body.close
  mem_labels_iff :
    ∀ offset,
      offset ∈ body.labels ↔
        m.StandsLabel offset ∧
          m.Innermost offset opening body.close
  unclamped :
    ∀ offset, opening < offset → offset ≤ body.close →
      1 ≤ openBraces (m.span opening offset) ∧
        (m.braceDepth opening offset : Int) =
          openBraces (m.span opening offset)

theorem close?_eq_some
    {k : Bracket}
    {start close : Nat}
    (hOpening : m.HasCode start k.opening)
    (hClose : m.close? start = some close) :
    Partners {k} m.cells.toList start close := by
  rw [← matchingClose_eq_some_iff hOpening]
  unfold close? at hClose
  split at hClose
  · rename_i found hFound
    rw [hFound, hClose]
  · cases hClose

/-
  Whatever the text is, a switch statement has the labels for
  which its own braces are the innermost ones.
-/
theorem switchBody?_bodyAt
    {start : Nat}
    {body : SwitchBody}
    (hBody : m.switchBody? start = some body) :
    ∃ opening, m.BodyAt start body opening := by
  have hAscending := switchBody?_labels_ascending hBody
  simp only [switchBody?, Option.bind_eq_bind,
    Option.bind_eq_some_iff, Option.pure_def,
    Option.some.injEq] at hBody
  rcases hBody with
    ⟨paren, hParen, parenClose, hParenClose, opening, hOpening,
      close, hClose, rfl⟩
  have hRound : m.HasCode paren Bracket.round.opening :=
    (nextCode_eq_some hParen).2
  have hCurly : m.HasCode opening Bracket.curly.opening :=
    (nextCode_eq_some hOpening).2
  have hPair : m.BracePair opening close :=
    close?_eq_some hCurly hClose
  have hMember :
      ∀ offset,
        offset ∈
            m.labelOffsets.filter (fun offset =>
              opening < offset && offset < close &&
                m.braceDepth opening offset == 1) ↔
          m.StandsLabel offset ∧
            m.Innermost offset opening close := by
    intro offset
    rw [List.mem_filter, mem_labelOffsets_iff_standsLabel]
    simp only [Bool.and_eq_true, decide_eq_true_eq, beq_iff_eq]
    constructor
    · rintro ⟨hLabel, ⟨hAfter, hBefore⟩, hDepth⟩
      exact
        ⟨hLabel,
          (hPair.braceDepth_eq_one_iff hAfter hBefore
            hLabel.not_closing).mp hDepth⟩
    · rintro ⟨hLabel, hInnermost⟩
      have hAfter := hInnermost.after_opening
      have hBefore := hInnermost.before_close
      exact
        ⟨hLabel, ⟨hAfter, hBefore⟩,
          (hPair.braceDepth_eq_one_iff hAfter hBefore
            hLabel.not_closing).mpr hInnermost⟩
  refine ⟨opening, ?_⟩
  exact
    { reached :=
        ⟨paren, parenClose, hParen,
          close?_eq_some hRound hParenClose, hOpening⟩
      pair := hPair
      ascending := hAscending
      between := fun label hLabel =>
        have hInnermost := ((hMember label).mp hLabel).2
        ⟨hInnermost.after_opening, hInnermost.before_close⟩
      mem_labels_iff := hMember
      unclamped := fun offset hAfter hBefore =>
        ⟨hPair.one_le_openAt hAfter hBefore,
          hPair.braceDepth_eq hAfter hBefore⟩ }

/- A switch statement with another one in a block of it. -/
def nestedSwitch : CodeMap :=
  ofText
    "switch(a)\x7bcase 0:\x7bswitch(b)\x7bcase 1:\x7d\x7ddefault:\x7d"

theorem nestedSwitch_bodyAt :
    ∃ body,
      nestedSwitch.switchBody? 0 = some body ∧
        body.labels = [10, 37] ∧
        ∃ opening, nestedSwitch.BodyAt 0 body opening := by
  have hLabels : nestedSwitch.labelOffsets = [10, 28, 37] := by
    have hOrder :
        (nestedSwitch.keywordOffsets "case" ++
          nestedSwitch.keywordOffsets "default").Pairwise
            (· ≤ ·) := by
      decide +kernel
    rw [labelOffsets_of_pairwise hOrder]
    decide +kernel
  have hBody :
      nestedSwitch.switchBody? 0 = some ⟨[10, 37], 45⟩ := by
    simp only [switchBody?, hLabels]
    decide +kernel
  exact ⟨_, hBody, rfl, switchBody?_bodyAt hBody⟩

end CodeMap

end Devirt

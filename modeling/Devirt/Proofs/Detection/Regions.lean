import Devirt.Proofs.Detection.Bodies
import Devirt.Proofs.Script.Outlines
import Mathlib.Data.List.Nodup

/-
  Signs in the map of a script.

  Each sign of a script takes up some of its offsets.  The words
  of switch statements stand only where a sign says so, and so
  do the brackets that are code.  Then the numbers of an outline
  can be read off the map: how many labels stand in no braces,
  and how many cases the widest switch statement has.

  Main declarations:
    * `CodeMap.Spot`, `CodeMap.Spots`
    * `CodeMap.Region`
    * `CodeMap.Region.switch`
    * `CodeMap.Spots.region`
-/

------------------------------------------------------------
-- Spans
------------------------------------------------------------

namespace Devirt

open Scanner
open Script (Sign Outline)

namespace CodeMap

variable {m : CodeMap}
variable {start middle stop : Nat}

theorem mem_span
    {c : Cell}
    (hMember : c ∈ m.span start stop) :
    ∃ offset,
      start ≤ offset ∧ offset < stop ∧
        m.cells[offset]? = some c := by
  rcases List.mem_iff_getElem?.mp hMember with ⟨index, hIndex⟩
  unfold span at hIndex
  rw [List.getElem?_take] at hIndex
  split_ifs at hIndex with hInside
  rw [List.getElem?_drop, Array.getElem?_toList] at hIndex
  exact ⟨start + index, by omega, by omega, hIndex⟩

/- A byte of code alone. -/
theorem HasCode.span_eq
    {offset : Nat}
    {b : UInt8}
    (hCode : m.HasCode offset b) :
    m.span offset (offset + 1) = [⟨b, true⟩] := by
  simp [span, hCode.drop_eq]

theorem openAt_eq_balance
    (m : CodeMap)
    (start stop : Nat) :
    m.openAt start stop = balance .curly (m.span start stop) :=
  openBraces_eq_balance _

/- Within balanced cells no fewer braces are opened. -/
theorem openAt_nonneg
    {offset : Nat}
    (hCurly : Balanced .curly (m.span start stop))
    (hBefore : offset ≤ stop) :
    0 ≤ m.openAt start offset := by
  have hPrefix := hCurly.prefix_nonneg (offset - start)
  rw [span, List.take_take,
    Nat.min_eq_left (Nat.sub_le_sub_right hBefore start)]
    at hPrefix
  rwa [openAt_eq_balance]

/- The search for a byte of code ends at the first one. -/
theorem nextCode_eq
    {found : Nat}
    {b : UInt8}
    (hAfter : start ≤ found)
    (hHere : m.HasCode found b)
    (hNone :
      ∀ offset,
        start ≤ offset → offset < found → ¬ m.HasCode offset b) :
    m.nextCode start b = some found := by
  obtain ⟨n, rfl⟩ := Nat.exists_eq_add_of_le hAfter
  unfold nextCode
  induction n generalizing start with
  | zero =>
      rw [Nat.add_zero] at hHere ⊢
      simp [hHere.drop_eq, findCode]
  | succ n ih =>
      have hInside : start < m.cells.toList.length := by
        have hSize := hHere.lt_size
        unfold size at hSize
        rw [Array.length_toList]
        omega
      have hOther := hNone start (Nat.le_refl _) (by omega)
      have hCell :
          ¬(m.cells.toList[start].isCode &&
              m.cells.toList[start].byte == b) = true := by
        intro hBoth
        simp only [Bool.and_eq_true, beq_iff_eq] at hBoth
        apply hOther
        rw [← hBoth.2, HasCode, ← Array.getElem?_toList,
          List.getElem?_eq_getElem hInside, ← hBoth.1]
      have hShift : start + 1 + n = start + (n + 1) := by omega
      rw [List.drop_eq_getElem_cons hInside, findCode,
        if_neg hCell]
      have hRest :
          findCode b (start + 1)
              (m.cells.toList.drop (start + 1)) =
            some (start + 1 + n) :=
        ih (by omega) (by rwa [hShift])
          fun offset hLater hBefore =>
            hNone offset (by omega) (by omega)
      rwa [hShift] at hRest

/- Brackets around balanced cells are partners. -/
theorem partners_of_balanced
    {k : Bracket}
    {opening close : Nat}
    (hOpening : m.HasCode opening k.opening)
    (hClose : m.HasCode close k.closing)
    (hLater : opening < close)
    (hInner : Balanced k (m.span (opening + 1) close)) :
    Partners {k} m.cells.toList opening close := by
  have hSize := hClose.lt_size
  unfold size at hSize
  refine ⟨k, rfl, m.cells.toList.take opening,
    m.span (opening + 1) close,
    m.cells.toList.drop (close + 1), ?_,
    (nested_singleton_iff k _).mpr hInner, ?_, ?_⟩
  · have hFirst :
        k.openingCell :: m.cells.toList.drop (opening + 1) =
          m.cells.toList.drop opening :=
      hOpening.drop_eq.symm
    have hLast :
        k.closingCell :: m.cells.toList.drop (close + 1) =
          m.cells.toList.drop close :=
      hClose.drop_eq.symm
    have hRest :
        m.span (opening + 1) close ++
            m.cells.toList.drop close =
          m.cells.toList.drop (opening + 1) := by
      obtain ⟨n, rfl⟩ := Nat.exists_eq_add_of_lt hLater
      have hLength : opening + n + 1 - (opening + 1) = n := by
        omega
      have hWhole :=
        List.take_append_drop n
          (m.cells.toList.drop (opening + 1))
      rw [List.drop_drop] at hWhole
      rw [span, hLength, Nat.add_right_comm]
      exact hWhole
    rw [hLast, hRest, hFirst, List.take_append_drop]
  · rw [List.length_take, Array.length_toList]
    omega
  · rw [span, List.length_take, List.length_drop,
      Array.length_toList]
    omega

theorem close?_eq
    {k : Bracket}
    {opening close : Nat}
    (hOpening : m.HasCode opening k.opening)
    (hPartners : Partners {k} m.cells.toList opening close) :
    m.close? opening = some close := by
  unfold close?
  rw [hPartners.matchingClose_eq hOpening]

------------------------------------------------------------
-- Spots
------------------------------------------------------------

/- No bracket of a kind that counts is code there. -/
def IsQuiet (m : CodeMap) (start stop : Nat) : Prop :=
  ∀ offset,
    start ≤ offset → offset < stop →
      ∀ k : Bracket, k ≠ .square →
        ¬ m.HasCode offset k.opening ∧
          ¬ m.HasCode offset k.closing

/- No word of a switch statement stands there. -/
def IsWordless (m : CodeMap) (start stop : Nat) : Prop :=
  ∀ offset,
    start ≤ offset → offset < stop →
      ¬ m.StandsLabel offset ∧ ¬ m.Stands "switch" offset

/- The offsets from one to another that belong to a sign. -/
inductive Spot (m : CodeMap) : Sign → Nat → Nat → Prop where
  | other
      {start stop : Nat}
      (hOrder : start ≤ stop)
      (hQuiet : m.IsQuiet start stop)
      (hWords : m.IsWordless start stop) :
      Spot m .other start stop
  | opening
      {k : Bracket}
      {start place : Nat}
      (hOrder : start ≤ place)
      (hQuiet : m.IsQuiet start place)
      (hWords : m.IsWordless start (place + 1))
      (hHere : m.HasCode place k.opening) :
      Spot m (.opening k) start (place + 1)
  | closing
      {k : Bracket}
      {start place : Nat}
      (hOrder : start ≤ place)
      (hQuiet : m.IsQuiet start place)
      (hWords : m.IsWordless start (place + 1))
      (hHere : m.HasCode place k.closing) :
      Spot m (.closing k) start (place + 1)
  | label
      {start place stop : Nat}
      (hOrder : start ≤ place ∧ place < stop)
      (hQuiet : m.IsQuiet start stop)
      (hBefore : m.IsWordless start place)
      (hHere : m.StandsLabel place)
      (hOther : ¬ m.Stands "switch" place)
      (hBehind : m.IsWordless (place + 1) stop) :
      Spot m .label start stop
  | switchWord
      {start place stop : Nat}
      (hOrder : start ≤ place ∧ place < stop)
      (hQuiet : m.IsQuiet start stop)
      (hBefore : m.IsWordless start place)
      (hHere : m.Stands "switch" place)
      (hOther : ¬ m.StandsLabel place)
      (hBehind : m.IsWordless (place + 1) stop) :
      Spot m .switchWord start stop

/- The offsets that belong to signs in a row. -/
inductive Spots (m : CodeMap) :
    List Sign → Nat → Nat → Prop where
  | nil (start : Nat) : Spots m [] start start
  | cons
      {sign : Sign}
      {signs : List Sign}
      {start middle stop : Nat}
      (hFirst : Spot m sign start middle)
      (hRest : Spots m signs middle stop) :
      Spots m (sign :: signs) start stop

theorem Spots.append
    {signs more : List Sign}
    (hFirst : m.Spots signs start middle)
    (hSecond : m.Spots more middle stop) :
    m.Spots (signs ++ more) start stop := by
  induction hFirst with
  | nil => exact hSecond
  | cons hSpot _ ih => exact .cons hSpot (ih hSecond)

/- Signs in a row can be parted anywhere. -/
theorem Spots.parts
    {signs more : List Sign}
    (hSpots : m.Spots (signs ++ more) start stop) :
    ∃ middle,
      m.Spots signs start middle ∧ m.Spots more middle stop := by
  induction signs generalizing start with
  | nil => exact ⟨start, .nil start, hSpots⟩
  | cons sign signs ih =>
      cases hSpots with
      | cons hSpot hRest =>
          rcases ih hRest with ⟨middle, hFirst, hSecond⟩
          exact ⟨middle, .cons hSpot hFirst, hSecond⟩

theorem Spots.single
    {sign : Sign}
    (hSpots : m.Spots [sign] start stop) :
    m.Spot sign start stop := by
  cases hSpots with
  | cons hSpot hRest =>
      cases hRest
      exact hSpot

------------------------------------------------------------
-- Regions
------------------------------------------------------------

/- How many labels stand between two offsets in no braces. -/
def labelsBetween (m : CodeMap) (start stop : Nat) : Nat :=
  m.labelOffsets.countP fun offset =>
    start ≤ offset ∧ offset < stop ∧ m.openAt start offset = 0

/-
  The offsets from one to another with as many labels in no
  braces as said, and no switch statement wider than said.
-/
structure Region
    (m : CodeMap)
    (start stop labels width : Nat) :
    Prop where
  ordered : start ≤ stop
  balanced :
    ∀ k : Bracket, k ≠ .square → Balanced k (m.span start stop)
  labels_eq : m.labelsBetween start stop = labels
  width_le_iff :
    ∀ bound,
      width ≤ bound ↔
        ∀ offset, start ≤ offset → offset < stop →
          m.Stands "switch" offset →
            Lexical.caseCount m offset ≤ bound

theorem labelsBetween_eq_zero_iff :
    m.labelsBetween start stop = 0 ↔
      ∀ offset, start ≤ offset → offset < stop →
        m.StandsLabel offset → m.openAt start offset ≠ 0 := by
  unfold labelsBetween
  simp only [List.countP_eq_zero, decide_eq_true_eq, not_and,
    mem_labelOffsets_iff_standsLabel]
  constructor
  · exact fun hAll offset hAfter hBefore hLabel =>
      hAll offset hLabel hAfter hBefore
  · exact fun hAll offset hLabel hAfter hBefore =>
      hAll offset hAfter hBefore hLabel

/- Labels in no braces are counted on both sides of an offset. -/
theorem labelsBetween_append
    (hMiddle : start ≤ middle)
    (hStop : middle ≤ stop)
    (hEven : m.openAt start middle = 0) :
    m.labelsBetween start stop =
      m.labelsBetween start middle +
        m.labelsBetween middle stop := by
  unfold labelsBetween
  rw [List.countP_eq_countP_filter_add _ _ (· < middle),
    List.countP_filter, List.countP_filter]
  congr 1
  · refine List.countP_congr fun offset _ => ?_
    simp only [Bool.and_eq_true, decide_eq_true_eq]
    omega
  · refine List.countP_congr fun offset _ => ?_
    simp only [Bool.and_eq_true, decide_eq_true_eq,
      Bool.not_eq_true', decide_eq_false_iff_not, not_lt]
    constructor
    · rintro ⟨⟨-, hBefore, hOpen⟩, hAfter⟩
      rw [openAt_trans hMiddle hAfter, hEven] at hOpen
      exact ⟨hAfter, hBefore, by omega⟩
    · rintro ⟨hAfter, hBefore, hOpen⟩
      refine ⟨⟨by omega, hBefore, ?_⟩, hAfter⟩
      rw [openAt_trans hMiddle hAfter, hEven]
      omega

theorem IsQuiet.balanced
    {k : Bracket}
    (hQuiet : m.IsQuiet start stop)
    (hKind : k ≠ .square) :
    Balanced k (m.span start stop) := by
  have hNested : Nested {k} (m.span start stop) := by
    have hOther :
        ∀ c ∈ m.span start stop,
          ∀ other ∈ ({k} : Set Bracket),
            c ≠ other.openingCell ∧ c ≠ other.closingCell := by
      rintro c hMember other rfl
      rcases mem_span hMember with
        ⟨offset, hAfter, hBefore, hCell⟩
      have hNone := hQuiet offset hAfter hBefore other hKind
      refine ⟨?_, ?_⟩
      · rintro rfl
        exact hNone.1 hCell
      · rintro rfl
        exact hNone.2 hCell
    generalize m.span start stop = cells at hOther
    induction cells with
    | nil => exact .nil
    | cons c cells ih =>
        rcases List.forall_mem_cons.mp hOther with
          ⟨hFirst, hRest⟩
        exact .other c hFirst (ih hRest)
  exact hNested.balanced rfl

theorem IsQuiet.mono
    {first last : Nat}
    (hQuiet : m.IsQuiet start stop)
    (hFirst : start ≤ first)
    (hLast : last ≤ stop) :
    m.IsQuiet first last :=
  fun offset hAfter hBefore =>
    hQuiet offset (hFirst.trans hAfter)
      (Nat.lt_of_lt_of_le hBefore hLast)

theorem IsWordless.mono
    {first last : Nat}
    (hWords : m.IsWordless start stop)
    (hFirst : start ≤ first)
    (hLast : last ≤ stop) :
    m.IsWordless first last :=
  fun offset hAfter hBefore =>
    hWords offset (hFirst.trans hAfter)
      (Nat.lt_of_lt_of_le hBefore hLast)

theorem IsWordless.append
    (hFirst : m.IsWordless start middle)
    (hSecond : m.IsWordless middle stop) :
    m.IsWordless start stop := by
  intro offset hAfter hBefore
  rcases Nat.lt_or_ge offset middle with hHere | hHere
  · exact hFirst offset hAfter hHere
  · exact hSecond offset hHere hBefore

namespace Region

variable {labels moreLabels width moreWidth : Nat}

/- Nothing is counted where no words stand. -/
theorem wordless
    (hOrder : start ≤ stop)
    (hQuiet : m.IsQuiet start stop)
    (hWords : m.IsWordless start stop) :
    m.Region start stop 0 0 where
  ordered := hOrder
  balanced := fun _ hKind => hQuiet.balanced hKind
  labels_eq := labelsBetween_eq_zero_iff.mpr
    fun offset hAfter hBefore hLabel =>
      absurd hLabel (hWords offset hAfter hBefore).1
  width_le_iff := fun bound =>
    iff_of_true (Nat.zero_le bound)
      fun offset hAfter hBefore hSwitch =>
        absurd hSwitch (hWords offset hAfter hBefore).2

theorem even
    (hRegion : m.Region start stop labels width) :
    m.openAt start stop = 0 := by
  rw [openAt_eq_balance]
  exact (hRegion.balanced .curly nofun).even

theorem append
    (hFirst : m.Region start middle labels width)
    (hSecond : m.Region middle stop moreLabels moreWidth) :
    m.Region start stop (labels + moreLabels)
      (max width moreWidth) where
  ordered := hFirst.ordered.trans hSecond.ordered
  balanced := fun k hKind => by
    rw [m.span_append hFirst.ordered hSecond.ordered]
    exact (hFirst.balanced k hKind).append
      (hSecond.balanced k hKind)
  labels_eq := by
    rw [labelsBetween_append hFirst.ordered hSecond.ordered
      hFirst.even, hFirst.labels_eq, hSecond.labels_eq]
  width_le_iff := fun bound => by
    rw [Nat.max_le, hFirst.width_le_iff, hSecond.width_le_iff]
    have hLeft := hFirst.ordered
    have hRight := hSecond.ordered
    constructor
    · rintro ⟨hBefore, hBehind⟩ offset hStart hStop hSwitch
      rcases Nat.lt_or_ge offset middle with hHere | hHere
      · exact hBefore offset hStart hHere hSwitch
      · exact hBehind offset hHere hStop hSwitch
    · intro hAll
      exact
        ⟨fun offset hStart hStop =>
            hAll offset hStart (by omega),
          fun offset hStart hStop =>
            hAll offset (by omega) hStop⟩

theorem cast
    {otherLabels otherWidth : Nat}
    (hRegion : m.Region start stop labels width)
    (hLabels : labels = otherLabels)
    (hWidth : width = otherWidth) :
    m.Region start stop otherLabels otherWidth := by
  subst hLabels hWidth
  exact hRegion

/- The place of a label is one. -/
theorem label
    {place : Nat}
    (hQuiet : m.IsQuiet place (place + 1))
    (hHere : m.StandsLabel place)
    (hOther : ¬ m.Stands "switch" place) :
    m.Region place (place + 1) 1 0 where
  ordered := Nat.le_succ place
  balanced := fun _ hKind => hQuiet.balanced hKind
  labels_eq := by
    have hMember :=
      (m.mem_labelOffsets_iff_standsLabel place).mpr hHere
    have hNone : m.openAt place place = 0 := by
      rw [openAt_eq_balance, span_self]
      rfl
    have hOnly :
        ∀ offset,
          (place ≤ offset ∧ offset < place + 1 ∧
              m.openAt place offset = 0) ↔
            offset = place := by
      intro offset
      constructor
      · omega
      · rintro rfl
        exact ⟨Nat.le_refl _, Nat.lt_succ_self _, hNone⟩
    unfold labelsBetween
    simp only [hOnly]
    have hCount :=
      List.count_eq_one_of_mem
        (m.labelOffsets_ascending.imp Nat.ne_of_lt) hMember
    simpa [List.count, beq_eq_decide] using hCount
  width_le_iff := fun bound => by
    refine iff_of_true (Nat.zero_le bound) ?_
    intro offset hAfter hBefore hSwitch
    have hSame : offset = place := by omega
    rw [hSame] at hSwitch
    exact absurd hSwitch hOther

/- The place of a switch statement is as wide as it is. -/
theorem switchWord
    {place : Nat}
    (hQuiet : m.IsQuiet place (place + 1))
    (hHere : m.Stands "switch" place)
    (hOther : ¬ m.StandsLabel place) :
    m.Region place (place + 1) 0
      (Lexical.caseCount m place) where
  ordered := Nat.le_succ place
  balanced := fun _ hKind => hQuiet.balanced hKind
  labels_eq := labelsBetween_eq_zero_iff.mpr
    fun offset hAfter hBefore hLabel => by
      have hSame : offset = place := by omega
      rw [hSame] at hLabel
      exact absurd hLabel hOther
  width_le_iff := fun bound => by
    constructor
    · intro hBound offset hAfter hBefore _
      have hSame : offset = place := by omega
      rwa [hSame]
    · intro hAll
      exact hAll place (Nat.le_refl _) (Nat.lt_succ_self _) hHere

/- A place with nothing to count on either side. -/
theorem between
    {place : Nat}
    (hOrder : start ≤ place ∧ place < stop)
    (hQuiet : m.IsQuiet start stop)
    (hBefore : m.IsWordless start place)
    (hBehind : m.IsWordless (place + 1) stop)
    (hHere : m.Region place (place + 1) labels width) :
    m.Region start stop labels width := by
  have hFirst :=
    wordless hOrder.1
      (hQuiet.mono (Nat.le_refl _) hOrder.2.le) hBefore
  have hLast :=
    wordless hOrder.2
      (hQuiet.mono (Nat.le_succ_of_le hOrder.1) (Nat.le_refl _))
      hBehind
  exact ((hFirst.append hHere).append hLast).cast (by omega)
    (by omega)

end Region

------------------------------------------------------------
-- Brackets around Regions
------------------------------------------------------------

/- A region between brackets, and what stands before them. -/
structure Fenced
    (m : CodeMap)
    (k : Bracket)
    (start opening close labels width : Nat) :
    Prop where
  ordered : start ≤ opening
  quiet : m.IsQuiet start opening
  words : m.IsWordless start (opening + 1)
  isOpening : m.HasCode opening k.opening
  inner : m.Region (opening + 1) close labels width
  isClosing : m.HasCode close k.closing
  last : m.IsWordless close (close + 1)

/- The signs of brackets fence what stands between them. -/
theorem Spot.fenced
    {k : Bracket}
    {first labels width : Nat}
    (hOpening : m.Spot (.opening k) start first)
    (hInner : m.Region first middle labels width)
    (hClosing : m.Spot (.closing k) middle stop) :
    ∃ opening close,
      stop = close + 1 ∧
        m.Fenced k start opening close labels width := by
  cases hOpening with
  | @opening _ _ place hOrder hQuiet hWords hHere =>
      cases hClosing with
      | @closing _ _ close hLater hBehind hLast hThere =>
          have hGap :=
            Region.wordless hLater hBehind
              (hLast.mono (Nat.le_refl _) (Nat.le_succ _))
          refine ⟨place, close, rfl, hOrder, hQuiet, hWords,
            hHere, (hInner.append hGap).cast (by omega)
              (by omega), hThere, ?_⟩
          exact hLast.mono hLater (Nat.le_refl _)

namespace Fenced

variable {k : Bracket}
variable {opening close labels width : Nat}

/-
  Brackets around a region keep its width.  Labels are hidden
  by braces; between other brackets there must be none.
-/
theorem region
    (hFenced : m.Fenced k start opening close labels width)
    (hLabels : labels = 0 ∨ k = .curly) :
    m.Region start (close + 1) 0 width := by
  have hBefore := hFenced.ordered
  have hInside := hFenced.inner.ordered
  have hSpan :
      m.span start (close + 1) =
        m.span start opening ++
          k.openingCell ::
            (m.span (opening + 1) close ++ [k.closingCell]) := by
    have hOpening : m.span opening (opening + 1) =
        [k.openingCell] := hFenced.isOpening.span_eq
    have hClosing : m.span close (close + 1) =
        [k.closingCell] := hFenced.isClosing.span_eq
    have hOuter : opening ≤ close + 1 := by omega
    have hRest : opening + 1 ≤ close + 1 := by omega
    rw [m.span_append hBefore hOuter,
      m.span_append (Nat.le_succ opening) hRest,
      m.span_append hInside (Nat.le_succ close), hOpening,
      hClosing]
    rfl
  refine ⟨by omega, ?_, ?_, ?_⟩
  · intro other hKind
    rw [hSpan]
    exact (hFenced.quiet.balanced hKind).append
      ((hFenced.inner.balanced other hKind).enclosed k)
  · rw [labelsBetween_eq_zero_iff]
    intro offset hAfter hEarlier hLabel
    have hStart : opening + 1 ≤ offset := by
      by_contra hLess
      exact (hFenced.words offset hAfter (by omega)).1 hLabel
    have hEnd : offset < close := by
      by_contra hLater
      exact (hFenced.last offset (by omega) hEarlier).1 hLabel
    have hCurly := hFenced.inner.balanced .curly nofun
    have hOpen := openAt_nonneg hCurly hEnd.le
    have hFront :
        m.openAt start (opening + 1) =
          weight .curly k.openingCell := by
      have hOpening : m.span opening (opening + 1) =
          [k.openingCell] := hFenced.isOpening.span_eq
      rw [openAt_eq_balance,
        m.span_append hBefore (Nat.le_succ opening),
        balance_append, hOpening,
        (hFenced.quiet.balanced (k := .curly) nofun).even]
      simp
    have hEarly : start ≤ opening + 1 := by omega
    rw [openAt_trans hEarly hStart, hFront]
    rcases hLabels with rfl | rfl
    · have hNone :=
        labelsBetween_eq_zero_iff.mp hFenced.inner.labels_eq
          offset hStart hEnd hLabel
      have hWeight := (weight_pair .curly k).2
      omega
    · rw [weight_openingCell]
      omega
  · intro bound
    rw [hFenced.inner.width_le_iff]
    constructor
    · intro hAll offset hAfter hEarlier hSwitch
      have hStart : opening + 1 ≤ offset := by
        by_contra hLess
        exact
          (hFenced.words offset hAfter (by omega)).2 hSwitch
      have hEnd : offset < close := by
        by_contra hLater
        exact
          (hFenced.last offset (by omega) hEarlier).2 hSwitch
      exact hAll offset hStart hEnd hSwitch
    · intro hAll offset hStart hEnd
      exact hAll offset (by omega) (by omega)

/- A search from before the brackets finds the first one. -/
theorem nextCode_eq
    {before : Nat}
    (hFenced : m.Fenced k start opening close labels width)
    (hKind : k ≠ .square)
    (hOrder : before ≤ start)
    (hNone :
      ∀ offset,
        before ≤ offset → offset < start →
          ¬ m.HasCode offset k.opening) :
    m.nextCode before k.opening = some opening := by
  refine CodeMap.nextCode_eq (hOrder.trans hFenced.ordered)
    hFenced.isOpening ?_
  intro offset hAfter hEarlier
  rcases Nat.lt_or_ge offset start with hFront | hBehind
  · exact hNone offset hAfter hFront
  · exact (hFenced.quiet offset hBehind hEarlier k hKind).1

theorem close?_eq
    (hFenced : m.Fenced k start opening close labels width)
    (hKind : k ≠ .square) :
    m.close? opening = some close :=
  CodeMap.close?_eq hFenced.isOpening
    (partners_of_balanced hFenced.isOpening hFenced.isClosing
      hFenced.inner.ordered
      (hFenced.inner.balanced k hKind))

end Fenced

/- The labels of the cases are those that stand in no braces. -/
theorem caseCount_eq
    {place opening close labels : Nat}
    {subjectOpening subjectClose subjectLabels : Nat}
    {width subjectWidth : Nat}
    (hOrder : place ≤ start)
    (hQuiet : m.IsQuiet place start)
    (hSubject :
      m.Fenced .round start subjectOpening subjectClose
        subjectLabels subjectWidth)
    (hCases :
      m.Fenced .curly (subjectClose + 1) opening close labels
        width) :
    Lexical.caseCount m place = labels := by
  have hParen :
      m.nextCode place (byte '(') = some subjectOpening :=
    hSubject.nextCode_eq nofun hOrder
      fun offset hAfter hBefore =>
        (hQuiet offset hAfter hBefore .round nofun).1
  have hBrace :
      m.nextCode subjectClose (byte '\x7b') = some opening := by
    refine hCases.nextCode_eq nofun (Nat.le_succ _) ?_
    intro offset hAfter hBefore hCode
    have hSame : offset = subjectClose := by omega
    rw [hSame] at hCode
    have hByte :=
      hSubject.isClosing.byte?_eq.symm.trans hCode.byte?_eq
    exact absurd (Option.some.inj hByte) (by decide)
  have hInside := hCases.inner.ordered
  have hBody :
      m.switchBody? place =
        some
          ⟨m.labelOffsets.filter fun offset =>
              opening < offset && offset < close &&
                m.braceDepth opening offset == 1,
            close⟩ := by
    simp only [switchBody?, hParen, hSubject.close?_eq nofun,
      hBrace, hCases.close?_eq nofun, Option.bind_eq_bind,
      Option.bind_some, Option.pure_def]
  rw [← hCases.inner.labels_eq, Lexical.caseCount, hBody]
  simp only [Option.map_some, Option.getD_some]
  unfold labelsBetween
  rw [← List.countP_eq_length_filter]
  refine List.countP_congr fun offset _ => ?_
  simp only [Bool.and_eq_true, decide_eq_true_eq, beq_iff_eq]
  have hDepth :
      opening < offset → offset < close →
        (m.braceDepth opening offset = 1 ↔
          m.openAt (opening + 1) offset = 0) := by
    intro hAfter hBefore
    have hOpen :=
      openAt_nonneg (hCases.inner.balanced .curly nofun)
        hBefore.le
    have hOwn : m.openAt opening (opening + 1) = 1 := by
      rw [openAt_eq_balance, hCases.isOpening.span_eq]
      rfl
    have hWhole :
        m.openAt opening offset =
          1 + m.openAt (opening + 1) offset := by
      rw [openAt_trans (Nat.le_succ opening) hAfter, hOwn]
    change (m.openAt opening offset).toNat = 1 ↔ _
    omega
  constructor
  · rintro ⟨⟨hAfter, hBefore⟩, hOne⟩
    exact ⟨hAfter, hBefore, (hDepth hAfter hBefore).mp hOne⟩
  · rintro ⟨hAfter, hBefore, hNone⟩
    exact ⟨⟨hAfter, hBefore⟩, (hDepth hAfter hBefore).mpr hNone⟩

/- The region of a switch statement. -/
theorem Region.switch
    {first labels width caseWidth : Nat}
    {subjectStart subjectStop subjectEnd : Nat}
    {casesStart casesStop : Nat}
    (hWord : m.Spot .switchWord start first)
    (hOpening : m.Spot (.opening .round) first subjectStart)
    (hSubject : m.Region subjectStart subjectStop 0 width)
    (hClosing : m.Spot (.closing .round) subjectStop subjectEnd)
    (hOpens : m.Spot (.opening .curly) subjectEnd casesStart)
    (hCases : m.Region casesStart casesStop labels caseWidth)
    (hCloses : m.Spot (.closing .curly) casesStop stop) :
    m.Region start stop 0
      (max labels (max width caseWidth)) := by
  rcases hOpening.fenced hSubject hClosing with
    ⟨paren, parenClose, rfl, hRound⟩
  rcases hOpens.fenced hCases hCloses with
    ⟨brace, braceClose, rfl, hCurly⟩
  cases hWord with
  | @switchWord _ place _ hOrder hQuiet hBefore hHere hOther
      hBehind =>
      have hPlace :=
        Region.switchWord
          (hQuiet.mono hOrder.1 hOrder.2) hHere hOther
      have hFirst :=
        hPlace.between hOrder hQuiet hBefore hBehind
      rw [caseCount_eq hOrder.2.le
        (hQuiet.mono hOrder.1 (Nat.le_refl _)) hRound hCurly]
        at hFirst
      exact ((hFirst.append (hRound.region (Or.inl rfl))).append
        (hCurly.region (Or.inr rfl))).cast (by omega) (by omega)

------------------------------------------------------------
-- Outlines
------------------------------------------------------------

/-
  What an outline says of signs holds where they stand.  The
  induction goes along the outline.
-/
theorem Spots.region
    {signs : List Sign}
    {labels width : Nat}
    (hOutline : Outline signs labels width)
    (hSpots : m.Spots signs start stop) :
    m.Region start stop labels width := by
  induction hOutline generalizing start stop with
  | nil =>
      cases hSpots
      exact Region.wordless (Nat.le_refl _) (by
          intro offset hAfter hBefore
          omega) (by
          intro offset hAfter hBefore
          omega)
  | other =>
      cases hSpots.single with
      | other hOrder hQuiet hWords =>
          exact Region.wordless hOrder hQuiet hWords
  | label =>
      cases hSpots.single with
      | label hOrder hQuiet hBefore hHere hOther hBehind =>
          exact
            (Region.label (hQuiet.mono hOrder.1 hOrder.2) hHere
              hOther).between hOrder hQuiet hBefore hBehind
  | append _ _ ihSigns ihMore =>
      rcases hSpots.parts with ⟨middle, hFirst, hSecond⟩
      exact (ihSigns hFirst).append (ihMore hSecond)
  | enclosed k _ ih =>
      cases hSpots with
      | cons hOpening hRest =>
          rcases hRest.parts with ⟨middle, hInner, hLast⟩
          rcases hOpening.fenced (ih hInner) hLast.single with
            ⟨opening, close, rfl, hFenced⟩
          exact hFenced.region (Or.inl rfl)
  | switch _ _ ihSubject ihCases =>
      cases hSpots with
      | cons hWord hRest =>
          rcases hRest.parts with ⟨middle, hRound, hCurly⟩
          cases hRound with
          | cons hOpening hRest =>
              rcases hRest.parts with ⟨_, hSubject, hClosing⟩
              cases hCurly with
              | cons hOpens hRest =>
                  rcases hRest.parts with ⟨_, hCases, hCloses⟩
                  exact
                    Region.switch hWord hOpening
                      (ihSubject hSubject) hClosing.single hOpens
                      (ihCases hCases) hCloses.single

end CodeMap

end Devirt

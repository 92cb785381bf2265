import Devirt.Proofs.Source.Nesting
import Mathlib.Order.Bounds.Basic

/-
  Counting brackets of one kind finds partners.

  Counting gives the first place at which as many brackets of
  the kind are closed as were opened.  Up to there the kind is
  balanced, and for a single kind that is all there is to
  nesting; so what is found is the partner among the brackets of
  one kind.  Between partners in any nesting all kinds are
  balanced, so it is also the partner there.

  Main declarations:
    * `Returns`, `closeFrom_cases`
    * `nested_singleton_iff`
    * `CodeMap.matchingClose_eq_some_iff`
    * `CodeMap.matchingClose_findsPartner`
-/

------------------------------------------------------------
-- Counting
------------------------------------------------------------

namespace Devirt

open Scanner

namespace CodeMap

variable {k : Bracket}

/-
  Counting that begins with some open brackets comes back to
  zero for the first time behind a place.
-/
structure Returns
    (k : Bracket)
    (depth : Nat)
    (cells : List Cell)
    (place : Nat) : Prop where
  closing : cells[place]? = some k.closingCell
  open_before :
    ∀ n ≤ place, 0 < depth + balance k (cells.take n)
  even : depth + balance k (cells.take (place + 1)) = 0

theorem Returns.unique
    {depth place other : Nat}
    {cells : List Cell}
    (hPlace : Returns k depth cells place)
    (hOther : Returns k depth cells other) :
    place = other := by
  rcases Nat.lt_trichotomy place other with
    hLess | hSame | hGreater
  · have hOpen := hOther.open_before (place + 1) hLess
    have hEven := hPlace.even
    omega
  · exact hSame
  · have hOpen := hPlace.open_before (other + 1) hGreater
    have hEven := hOther.even
    omega

theorem isOpening_iff
    (k : Bracket)
    (c : Cell) :
    (c.isCode && c.byte == k.opening) = true ↔
      c = k.openingCell := by
  rcases c with ⟨b, isCode⟩
  simp [Bracket.openingCell, and_comm]

theorem isClosing_iff
    (k : Bracket)
    (c : Cell) :
    (c.isCode && c.byte == k.closing) = true ↔
      c = k.closingCell := by
  rcases c with ⟨b, isCode⟩
  simp [Bracket.closingCell, and_comm]

/- Brackets stay open throughout. -/
def StaysOpen
    (k : Bracket)
    (depth : Nat)
    (cells : List Cell) : Prop :=
  ∀ n, 0 < depth + balance k (cells.take n)

/- One cell more in front, and brackets are open as before. -/
theorem open_cons
    {depth inner : Nat}
    {c : Cell}
    {rest : List Cell}
    (hOpen : 0 < depth)
    (hDepth : (inner : Int) = depth + weight k c)
    (n : Nat)
    (hRest :
      ∀ before, n = before + 1 →
        0 < inner + balance k (rest.take before)) :
    0 < depth + balance k ((c :: rest).take n) := by
  cases n with
  | zero => simpa using hOpen
  | succ n =>
      have hBefore := hRest n rfl
      rw [List.take_succ_cons, balance_cons]
      omega

theorem StaysOpen.cons
    {depth inner : Nat}
    {c : Cell}
    {rest : List Cell}
    (hStays : StaysOpen k inner rest)
    (hOpen : 0 < depth)
    (hDepth : (inner : Int) = depth + weight k c) :
    StaysOpen k depth (c :: rest) :=
  fun n => open_cons hOpen hDepth n fun before _ => hStays before

theorem Returns.cons
    {depth inner place : Nat}
    {c : Cell}
    {rest : List Cell}
    (hReturns : Returns k inner rest place)
    (hOpen : 0 < depth)
    (hDepth : (inner : Int) = depth + weight k c) :
    Returns k depth (c :: rest) (place + 1) := by
  refine ⟨hReturns.closing, ?_, ?_⟩
  · intro n hInside
    apply open_cons hOpen hDepth
    intro before hBefore
    exact hReturns.open_before before (by omega)
  · have hEven := hReturns.even
    rw [List.take_succ_cons, balance_cons]
    omega

/-
  Counting gives the place at which it first comes back to
  zero, or nothing if it never does.
-/
theorem closeFrom_cases
    (k : Bracket)
    (offset : Nat)
    (cells : List Cell)
    {depth : Nat}
    (hOpen : 0 < depth) :
    (∃ place,
      closeFrom k offset depth cells =
          .ok (some (offset + place)) ∧
        Returns k depth cells place) ∨
      (closeFrom k offset depth cells = .ok none ∧
        StaysOpen k depth cells) := by
  have hStep :
      ∀ {offset depth inner : Nat} {c : Cell}
        {rest : List Cell} {result : Except Fault (Option Nat)},
        0 < depth → (inner : Int) = depth + weight k c →
          ((∃ place,
            result = .ok (some (offset + 1 + place)) ∧
              Returns k inner rest place) ∨
            (result = .ok none ∧ StaysOpen k inner rest)) →
          (∃ place,
            result = .ok (some (offset + place)) ∧
              Returns k depth (c :: rest) place) ∨
            (result = .ok none ∧
              StaysOpen k depth (c :: rest)) := by
    intro offset depth inner c rest result hOpen hDepth hCases
    rcases hCases with
      ⟨place, hResult, hReturns⟩ | ⟨hNone, hStays⟩
    · left
      refine ⟨place + 1, ?_, hReturns.cons hOpen hDepth⟩
      rw [hResult, Nat.add_assoc, Nat.add_comm 1]
    · right
      exact ⟨hNone, hStays.cons hOpen hDepth⟩
  fun_induction closeFrom k offset depth cells with
  | case1 => exact .inr ⟨rfl, by simpa [StaysOpen] using hOpen⟩
  | case2 offset depth c rest hOpening ih =>
      rw [(isOpening_iff k c).mp hOpening]
      exact hStep hOpen (by simp) (ih (Nat.succ_pos depth))
  | case3 => exact absurd hOpen (Nat.lt_irrefl 0)
  | case4 offset c rest hOpening hClosing =>
      rw [(isClosing_iff k c).mp hClosing]
      left
      refine ⟨0, rfl, rfl, ?_, by simp⟩
      intro n hHere
      rw [Nat.le_zero.mp hHere]
      simp
  | case5 offset c rest hOpening hClosing d ih =>
      rw [(isClosing_iff k c).mp hClosing]
      refine hStep hOpen ?_ (ih (Nat.succ_pos d))
      rw [weight_closingCell]
      omega
  | case6 offset depth c rest hOpening hClosing ih =>
      have hWeight :=
        weight_other (mt (isOpening_iff k c).mpr hOpening)
          (mt (isClosing_iff k c).mpr hClosing)
      exact hStep hOpen (by rw [hWeight, Int.add_zero]) (ih hOpen)

/- What stands before the first return is balanced. -/
theorem Returns.balanced
    {rest : List Cell}
    {place : Nat}
    (hReturns : Returns k 1 rest place) :
    Balanced k (rest.take place) := by
  have hEven := hReturns.even
  rw [List.take_add_one, hReturns.closing, balance_append]
    at hEven
  refine ⟨?_, ?_⟩
  · simp at hEven
    omega
  · intro n
    have hOpen :=
      hReturns.open_before (min n place) (Nat.min_le_right _ _)
    rw [List.take_take]
    omega

theorem Returns.eq_parts
    {rest : List Cell}
    {depth place : Nat}
    (hReturns : Returns k depth rest place) :
    rest =
      rest.take place ++
        k.closingCell :: rest.drop (place + 1) := by
  rcases List.getElem?_eq_some_iff.mp hReturns.closing with
    ⟨hInside, hClosing⟩
  rw [← hClosing, ← List.drop_eq_getElem_cons hInside,
    List.take_append_drop]

/-
  For a single kind, brackets are well nested just if they are
  balanced.
-/
theorem nested_singleton_iff
    (k : Bracket)
    (cells : List Cell) :
    Nested {k} cells ↔ Balanced k cells := by
  constructor
  · intro hNested
    exact hNested.balanced rfl
  · intro hBalanced
    -- the first pair leaves two shorter lists that are balanced
    induction hLength : cells.length using Nat.strong_induction_on
      generalizing cells with
    | _ length ih =>
    cases cells with
    | nil => exact .nil
    | cons c rest =>
        have hEven := hBalanced.even
        rw [balance_cons] at hEven
        by_cases hOpening : c = k.openingCell
        · subst c
          rw [weight_openingCell] at hEven
          rcases closeFrom_cases k 0 rest Nat.one_pos with
            ⟨place, -, hReturns⟩ | ⟨-, hStays⟩
          · have hInner := hReturns.balanced
            have hParts := hReturns.eq_parts
            have hInside :=
              (List.getElem?_eq_some_iff.mp hReturns.closing).1
            have hPair := hInner.enclosed k
            rw [hParts] at hBalanced ⊢
            have hBehind :
                Balanced k (rest.drop (place + 1)) :=
              Balanced.of_append (by simpa using hBalanced)
                hPair.even
            exact
              .pair rfl
                (ih _ (by simp at hLength ⊢; omega) _ hInner rfl)
                (ih _ (by simp at hLength ⊢; omega) _ hBehind rfl)
          · have hAll := hStays rest.length
            rw [List.take_length] at hAll
            omega
        · by_cases hClosing : c = k.closingCell
          · subst c
            have hFirst := hBalanced.prefix_nonneg 1
            simp at hFirst
          · have hWeight := weight_other hOpening hClosing
            refine .other c ?_ (ih _ ?_ rest ⟨?_, ?_⟩ rfl)
            · rintro other rfl
              exact ⟨hOpening, hClosing⟩
            · simp at hLength
              omega
            · omega
            · intro n
              have hPrefix := hBalanced.prefix_nonneg (n + 1)
              rw [List.take_succ_cons, balance_cons] at hPrefix
              omega

end CodeMap

end Devirt

------------------------------------------------------------
-- Closing Brackets
------------------------------------------------------------

namespace Devirt

open Scanner

namespace CodeMap

variable {m : CodeMap}
variable {start : Nat}
variable {k : Bracket}

/- The cells from an offset up to another one. -/
def span (m : CodeMap) (start stop : Nat) : List Cell :=
  (m.cells.toList.drop start).take (stop - start)

theorem span_self
    (m : CodeMap)
    (start : Nat) :
    m.span start start = [] := by
  rw [span, Nat.sub_self, List.take_zero]

theorem span_append
    (m : CodeMap)
    {start middle offset : Nat}
    (hMiddle : start ≤ middle)
    (hOffset : middle ≤ offset) :
    m.span start offset =
      m.span start middle ++ m.span middle offset := by
  obtain ⟨n, rfl⟩ := Nat.exists_eq_add_of_le hMiddle
  obtain ⟨l, rfl⟩ := Nat.exists_eq_add_of_le hOffset
  unfold span
  rw [Nat.add_sub_cancel_left, Nat.add_sub_cancel_left,
    Nat.add_assoc, Nat.add_sub_cancel_left, List.take_add,
    List.drop_drop]

/-
  From an opening bracket up to an offset, the brackets of the
  kind that are opened are as many as those that are closed.
-/
def EvenAt
    (m : CodeMap)
    (k : Bracket)
    (start offset : Nat) : Prop :=
  (m.span start (offset + 1)).count k.openingCell =
    (m.span start (offset + 1)).count k.closingCell

theorem evenAt_iff
    (hOpening : m.HasCode start k.opening)
    {offset : Nat}
    (hLater : start < offset) :
    m.EvenAt k start offset ↔
      1 + balance k
          ((m.cells.toList.drop (start + 1)).take
            (offset - start)) = 0 := by
  have hLength : offset + 1 - start = offset - start + 1 := by
    omega
  unfold EvenAt span
  rw [← balance_eq_zero_iff, hLength, hOpening.drop_eq,
    List.take_succ_cons, balance_cons]
  change weight k k.openingCell + _ = 0 ↔ _
  rw [weight_openingCell]

theorem HasCode.getElem?_eq
    {b : UInt8}
    (hCode : m.HasCode start b) :
    m.cells.toList[start]? = some ⟨b, true⟩ := by
  rw [Array.getElem?_toList]
  exact hCode

/- Up to the partner of a bracket, its kind stays open. -/
theorem Partners.returns
    {kinds : Set Bracket}
    {close : Nat}
    (hPartners : Partners kinds m.cells.toList start close)
    (hOpening : m.HasCode start k.opening) :
    ∃ place, close = start + 1 + place ∧
      Returns k 1 (m.cells.toList.drop (start + 1)) place := by
  rcases hPartners with
    ⟨other, hKind, before, inner, behind, hCells, hInner, rfl,
      rfl⟩
  have hBehind :
      m.cells.toList.drop (before.length + 1) =
        inner ++ other.closingCell :: behind := by
    rw [hCells, List.drop_length_add_append]
    rfl
  have hHere : m.cells.toList[before.length]? =
      some other.openingCell := by
    rw [hCells, getElem?_here]
  have hSame : other = k :=
    Bracket.openingCell_injective
      (Option.some.inj (hHere.symm.trans hOpening.getElem?_eq))
  subst other
  have hBalanced := hInner.balanced hKind
  refine ⟨inner.length, by omega, ?_⟩
  rw [hBehind]
  refine ⟨getElem?_here, ?_, ?_⟩
  · intro n hInside
    have hPrefix := hBalanced.prefix_nonneg n
    rw [List.take_append_of_le_length hInside]
    omega
  · rw [List.take_length_add_append, balance_append,
      hBalanced.even]
    simp

theorem Returns.partners
    {place : Nat}
    (hOpening : m.HasCode start k.opening)
    (hReturns :
      Returns k 1 (m.cells.toList.drop (start + 1)) place) :
    Partners {k} m.cells.toList start (start + 1 + place) := by
  have hInside :=
    (List.getElem?_eq_some_iff.mp hReturns.closing).1
  rw [List.length_drop] at hInside
  refine
    ⟨k, rfl, m.cells.toList.take start,
      (m.cells.toList.drop (start + 1)).take place,
      (m.cells.toList.drop (start + 1)).drop (place + 1), ?_,
      (nested_singleton_iff k _).mpr hReturns.balanced, ?_, ?_⟩
  · rw [← hReturns.eq_parts]
    change
      _ = _ ++ ⟨k.opening, true⟩ ::
        m.cells.toList.drop (start + 1)
    rw [← hOpening.drop_eq, List.take_append_drop]
  · rw [List.length_take]
    omega
  · rw [List.length_take, List.length_drop]
    omega

/- The result of counting, in every case. -/
theorem matchingClose_cases
    (hOpening : m.HasCode start k.opening) :
    (∃ place,
      m.matchingClose start = .ok (some (start + 1 + place)) ∧
        Returns k 1 (m.cells.toList.drop (start + 1)) place) ∨
      (m.matchingClose start = .ok none ∧
        StaysOpen k 1 (m.cells.toList.drop (start + 1))) := by
  rw [matchingClose_eq_closeFrom hOpening]
  exact
    closeFrom_cases k (start + 1) (m.cells.toList.drop (start + 1))
      Nat.one_pos

/- A return is what counting gives. -/
theorem Returns.matchingClose_eq
    {place : Nat}
    (hOpening : m.HasCode start k.opening)
    (hReturns :
      Returns k 1 (m.cells.toList.drop (start + 1)) place) :
    m.matchingClose start = .ok (some (start + 1 + place)) := by
  rcases matchingClose_cases hOpening with
    ⟨other, hFound, hOther⟩ | ⟨-, hStays⟩
  · rw [hFound, hReturns.unique hOther]
  · have hEven := hReturns.even
    have hOpen := hStays (place + 1)
    omega

/-
  Counting brackets of one kind finds the partner in every
  nesting that this kind takes part in.
-/
theorem Partners.matchingClose_eq
    {kinds : Set Bracket}
    {close : Nat}
    (hPartners : Partners kinds m.cells.toList start close)
    (hOpening : m.HasCode start k.opening) :
    m.matchingClose start = .ok (some close) := by
  rcases hPartners.returns hOpening with ⟨place, rfl, hReturns⟩
  exact hReturns.matchingClose_eq hOpening

/- What counting finds is the partner among one kind alone. -/
theorem matchingClose_eq_some_iff
    (hOpening : m.HasCode start k.opening)
    (close : Nat) :
    m.matchingClose start = .ok (some close) ↔
      Partners {k} m.cells.toList start close := by
  constructor
  · intro hFound
    rcases matchingClose_cases hOpening with
      ⟨place, hPlace, hReturns⟩ | ⟨hNone, -⟩
    · rw [hPlace] at hFound
      cases hFound
      exact hReturns.partners hOpening
    · rw [hNone] at hFound
      cases hFound
  · intro hPartners
    exact hPartners.matchingClose_eq hOpening

/- The first return is the least offset with even brackets. -/
theorem Returns.isLeast
    {place : Nat}
    (hOpening : m.HasCode start k.opening)
    (hReturns :
      Returns k 1 (m.cells.toList.drop (start + 1)) place) :
    IsLeast
      {offset |
        start < offset ∧ offset < m.size ∧
          m.EvenAt k start offset}
      (start + 1 + place) := by
  have hInside :=
    (List.getElem?_eq_some_iff.mp hReturns.closing).1
  rw [List.length_drop, Array.length_toList] at hInside
  refine ⟨⟨by omega, ?_, ?_⟩, ?_⟩
  · unfold size
    omega
  · rw [evenAt_iff hOpening (by omega)]
    have hLength : start + 1 + place - start = place + 1 := by
      omega
    rw [hLength]
    exact hReturns.even
  · rintro offset ⟨hLater, -, hEven⟩
    by_contra hLess
    rw [evenAt_iff hOpening hLater] at hEven
    have hOpen := hReturns.open_before (offset - start) (by omega)
    omega

theorem StaysOpen.not_evenAt
    (hOpening : m.HasCode start k.opening)
    (hStays :
      StaysOpen k 1 (m.cells.toList.drop (start + 1)))
    {offset : Nat}
    (hLater : start < offset) :
    ¬ m.EvenAt k start offset := by
  rw [evenAt_iff hOpening hLater]
  have hOpen := hStays (offset - start)
  omega

/-
  From an opening bracket of code on, counting gives the least
  later offset up to which the brackets of its kind are even,
  and nothing just if there is none.  If the brackets of all
  three kinds are well nested, it gives the one partner that
  the bracket has among them.
-/
theorem matchingClose_findsPartner
    (hOpening : m.HasCode start k.opening) :
    ∃ found,
      m.matchingClose start = .ok found ∧
        (∀ close,
          found = some close ↔
            IsLeast
              {offset |
                start < offset ∧ offset < m.size ∧
                  m.EvenAt k start offset}
              close) ∧
        (found = none ↔
          ∀ offset, start < offset → offset < m.size →
            ¬ m.EvenAt k start offset) ∧
        (Nested Set.univ m.cells.toList →
          ∃ close, found = some close ∧
            ∀ other,
              Partners Set.univ m.cells.toList start other ↔
                other = close) := by
  rcases matchingClose_cases hOpening with
    ⟨place, hFound, hReturns⟩ | ⟨hFound, hStays⟩
  · have hLeast := hReturns.isLeast hOpening
    refine ⟨_, hFound, ?_, ?_, ?_⟩
    · intro close
      constructor
      · rintro ⟨⟩
        exact hLeast
      · intro hOther
        rw [hLeast.unique hOther]
    · refine iff_of_false (by simp) ?_
      intro hNever
      exact
        hNever _ hLeast.1.1 hLeast.1.2.1 hLeast.1.2.2
    · intro hNested
      refine ⟨_, rfl, ?_⟩
      rcases hNested.exists_partner (Set.mem_univ k)
          hOpening.getElem?_eq with ⟨close, hPartners⟩
      have hOnly :
          ∀ other,
            Partners Set.univ m.cells.toList start other →
              other = start + 1 + place := by
        intro other hOther
        rcases hOther.returns hOpening with
          ⟨there, rfl, hThere⟩
        rw [hThere.unique hReturns]
      intro other
      refine ⟨hOnly other, ?_⟩
      rintro rfl
      rwa [← hOnly close hPartners]
  · have hNever :
        ∀ offset, start < offset → offset < m.size →
          ¬ m.EvenAt k start offset :=
      fun offset hLater _ => hStays.not_evenAt hOpening hLater
    refine ⟨none, hFound, ?_, ?_, ?_⟩
    · intro close
      refine iff_of_false (by simp) ?_
      intro hLeast
      exact
        hNever close hLeast.1.1 hLeast.1.2.1 hLeast.1.2.2
    · exact iff_of_true rfl hNever
    · intro hNested
      rcases hNested.exists_partner (Set.mem_univ k)
          hOpening.getElem?_eq with ⟨close, hPartners⟩
      rw [hPartners.matchingClose_eq hOpening] at hFound
      cases hFound

/- `f({a[0]: "]})"})`, with brackets of all kinds and a string. -/
def quotedBrackets : CodeMap :=
  ofText "f(\x7ba[0]: \"]\x7d)\"\x7d)"

theorem quotedBrackets_partners :
    quotedBrackets.HasCode 1 Bracket.round.opening ∧
      Nested Set.univ quotedBrackets.cells.toList ∧
      quotedBrackets.matchingClose 1 = .ok (some 15) ∧
      Partners Set.univ quotedBrackets.cells.toList 1 15 := by
  have hOpening :
      quotedBrackets.HasCode 1 Bracket.round.opening := by
    unfold HasCode
    decide +kernel
  have hNested :
      Nested Set.univ quotedBrackets.cells.toList := by
    decide +kernel
  have hClose :
      quotedBrackets.matchingClose 1 = .ok (some 15) := by
    decide +kernel
  rcases matchingClose_findsPartner hOpening with
    ⟨found, hFound, -, -, hPartner⟩
  rcases hPartner hNested with ⟨close, rfl, hOnly⟩
  rw [hClose] at hFound
  cases hFound
  exact ⟨hOpening, hNested, hClose, (hOnly 15).mpr rfl⟩

end CodeMap

end Devirt

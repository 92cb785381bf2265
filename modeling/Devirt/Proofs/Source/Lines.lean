import Devirt.Source.Location
import Devirt.Source.Scanner
import Mathlib.Data.List.Basic
import Mathlib.Data.Set.Function

/-
  Lines and columns of a text.

  The first line begins at the start of a text, and each other
  right behind a line feed.  The line feeds up to an offset are
  counted from the front, and the column is counted from the
  back; both lead to the same line, in which the offset lies
  behind so many bytes as the column tells.  So the offset can
  be found again from its location.

  Main declarations:
    * `Location.lineStarts`
    * `Location.Pinpoints`, `Location.pinpoints_ofOffset`
    * `Location.Pinpoints.unique`, `Location.ofOffset_injOn`
    * `Location.ofOffset_identifies`
-/

------------------------------------------------------------
-- Beginnings of Lines
------------------------------------------------------------

namespace Devirt

namespace Location

/-
  The offsets at which lines begin, in order: the start, and
  those behind the line feeds.
-/
def lineStarts (bytes : List UInt8) : List Nat :=
  0 :: (bytes.idxsOf lineFeed).map (· + 1)

/-
  An offset lies so many bytes behind the beginning of a line
  as a location tells, and no line feed lies between them.
-/
structure Pinpoints
    (bytes : List UInt8)
    (l : Location)
    (offset : Nat) : Prop where
  line_pos : 1 ≤ l.line
  column_pos : 1 ≤ l.column
  onLine :
    ∃ start,
      (lineStarts bytes)[l.line - 1]? = some start ∧
        offset = start + (l.column - 1) ∧
          ∀ index,
            start ≤ index → index < offset →
              bytes[index]? ≠ some lineFeed

/- A line begins behind the line feeds that come before it. -/
theorem lineStarts_behind
    (earlier later : List UInt8) :
    (lineStarts (earlier ++ lineFeed :: later))[
        (earlier ++ [lineFeed]).count lineFeed]? =
      some (earlier ++ [lineFeed]).length := by
  have hCount :
      (earlier ++ [lineFeed]).count lineFeed =
        (earlier.idxsOf lineFeed).length + 1 := by
    rw [List.count_append, List.count_singleton_self,
      List.length_idxsOf]
  have hFeeds :
      (earlier ++ lineFeed :: later).idxsOf lineFeed =
        earlier.idxsOf lineFeed ++
          earlier.length ::
            later.idxsOf lineFeed (earlier.length + 1) := by
    simp
  rw [hCount, lineStarts, List.getElem?_cons_succ,
    List.getElem?_map, hFeeds, List.getElem?_append_right
      (Nat.le_refl _), Nat.sub_self, List.getElem?_cons_zero]
  simp

/- Some bytes end with a last line, behind a line feed if any. -/
theorem exists_lastLine
    (before : List UInt8) :
    ∃ front,
      before = front ++ lastLine before ∧
        lineFeed ∉ lastLine before ∧
          (front = [] ∨
            ∃ earlier, front = earlier ++ [lineFeed]) := by
  have hParts :=
    List.takeWhile_append_dropWhile
      (p := fun b => b != lineFeed) (l := before.reverse)
  refine
    ⟨(before.reverse.dropWhile fun b => b != lineFeed).reverse,
      ?_, ?_, ?_⟩
  · rw [lastLine, ← List.reverse_append, hParts,
      List.reverse_reverse]
  · intro hMember
    rw [lastLine, List.mem_reverse] at hMember
    have hOther :=
      List.all_eq_true.mp List.all_takeWhile _ hMember
    simp at hOther
  · cases hRest :
        before.reverse.dropWhile fun b => b != lineFeed with
    | nil => exact Or.inl rfl
    | cons b rest =>
        have hFeed : b = lineFeed := by
          have hHead :=
            List.head?_dropWhile_not
              (fun b => b != lineFeed) before.reverse
          rw [hRest] at hHead
          simpa using hHead
        subst hFeed
        exact Or.inr ⟨rest.reverse, List.reverse_cons⟩

------------------------------------------------------------
-- Locations
------------------------------------------------------------

/- The location of an offset leads to it. -/
theorem pinpoints_ofOffset
    {bytes : List UInt8}
    {offset : Nat}
    (hInside : offset ≤ bytes.length) :
    Pinpoints bytes (ofOffset bytes offset) offset := by
  obtain ⟨before, later, rfl, rfl⟩ :
      ∃ before later,
        bytes = before ++ later ∧ offset = before.length :=
    ⟨bytes.take offset, bytes.drop offset,
      (List.take_append_drop offset bytes).symm,
      (List.length_take_of_le hInside).symm⟩
  rcases exists_lastLine before with
    ⟨front, hBefore, hPlain, hFront⟩
  have hLocation :
      ofOffset (before ++ later) before.length =
        after before := by
    rw [ofOffset, List.take_left]
  have hLine : before.count lineFeed = front.count lineFeed := by
    conv_lhs => rw [hBefore]
    rw [List.count_append, List.count_eq_zero.mpr hPlain,
      Nat.add_zero]
  have hLength :
      before.length = front.length + (lastLine before).length := by
    conv_lhs => rw [hBefore]
    rw [List.length_append]
  rw [hLocation]
  refine
    ⟨Nat.le_add_left _ _, Nat.le_add_left _ _, front.length, ?_,
      hLength, ?_⟩
  · change (lineStarts (before ++ later))[before.count lineFeed]? = _
    rw [hLine]
    rcases hFront with rfl | ⟨earlier, rfl⟩
    · rfl
    · rw [hBefore, List.append_assoc, List.append_assoc]
      exact lineStarts_behind earlier _
  · intro index hStart hStop
    rw [List.getElem?_append_left hStop, hBefore,
      List.getElem?_append_right hStart]
    intro hFeed
    exact hPlain (List.mem_of_getElem? hFeed)

/- A location leads to one offset only. -/
theorem Pinpoints.unique
    {bytes : List UInt8}
    {l : Location}
    {first second : Nat}
    (hFirst : Pinpoints bytes l first)
    (hSecond : Pinpoints bytes l second) :
    first = second := by
  rcases hFirst.onLine with ⟨start, hStart, hOffset, -⟩
  rcases hSecond.onLine with ⟨other, hOther, hPlace, -⟩
  have hSame : start = other :=
    Option.some.inj (hStart.symm.trans hOther)
  rw [hOffset, hPlace, hSame]

/- Two offsets of a text have two locations. -/
theorem ofOffset_injOn
    (bytes : List UInt8) :
    Set.InjOn (ofOffset bytes)
      {offset | offset ≤ bytes.length} := by
  intro first hFirst second hSecond hSame
  have hThere := pinpoints_ofOffset hSecond
  rw [← hSame] at hThere
  exact (pinpoints_ofOffset hFirst).unique hThere

/-
  In every source, the location of an offset leads to it, no
  other offset of the source has the same location, and all
  offsets beyond the end have the location of the end.
-/
theorem ofOffset_identifies
    (code : String) :
    (∀ offset ≤ (Scanner.bytesOf code).length,
        Pinpoints (Scanner.bytesOf code)
          (ofOffset (Scanner.bytesOf code) offset) offset) ∧
      Set.InjOn (ofOffset (Scanner.bytesOf code))
        {offset | offset ≤ (Scanner.bytesOf code).length} ∧
      ∀ offset,
        (Scanner.bytesOf code).length ≤ offset →
          ofOffset (Scanner.bytesOf code) offset =
            ofOffset (Scanner.bytesOf code)
              (Scanner.bytesOf code).length := by
  refine
    ⟨fun offset hInside => pinpoints_ofOffset hInside,
      ofOffset_injOn _, ?_⟩
  intro offset hBeyond
  rw [ofOffset, ofOffset, List.take_of_length_le hBeyond,
    List.take_length]

/- The second of these lines is empty. -/
def emptyLine : String := "a\n\nb"

theorem emptyLine_identified :
    2 ≤ (Scanner.bytesOf emptyLine).length ∧
      ofOffset (Scanner.bytesOf emptyLine) 2 = ⟨2, 1⟩ ∧
        Pinpoints (Scanner.bytesOf emptyLine) ⟨2, 1⟩ 2 ∧
          ofOffset (Scanner.bytesOf emptyLine) 9 =
            ofOffset (Scanner.bytesOf emptyLine)
              (Scanner.bytesOf emptyLine).length := by
  have hInside : 2 ≤ (Scanner.bytesOf emptyLine).length := by
    decide +kernel
  have hLocation :
      ofOffset (Scanner.bytesOf emptyLine) 2 = ⟨2, 1⟩ := by
    decide +kernel
  rcases ofOffset_identifies emptyLine with
    ⟨hPinpoints, -, hBeyond⟩
  refine
    ⟨hInside, hLocation, ?_, hBeyond 9 (by decide +kernel)⟩
  rw [← hLocation]
  exact hPinpoints 2 hInside

end Location

end Devirt

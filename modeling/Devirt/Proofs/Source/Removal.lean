import Devirt.Proofs.Source.Cutting
import Devirt.Proofs.Source.Partners
import Devirt.Proofs.Source.Stretches

/-
  Scripts with parts of their code taken out.

  If the brackets of a script are well nested, so are those
  from an opening bracket to what closes it.  Well nested parts
  can be taken out of it, and the cells that are left are well
  nested.  The scanner comes to each part at the top level, and
  to what follows it, so it reads the rest in the modes in which
  it has read it in the script.  It reads it as the same cells,
  unless a slash of the code changes its meaning.

  Main declarations:
    * `CodeMap.nested_span_of_matchingClose`
    * `CodeMap.remaining`, `CodeMap.nested_remaining`
    * `Scanner.Reads.again`, `CodeMap.reads_span`
    * `CodeMap.CutsOut`, `CodeMap.cells_of_removal`
-/

------------------------------------------------------------
-- Nested Spans
------------------------------------------------------------

namespace Devirt

open Scanner

namespace CodeMap

variable {m : CodeMap}
variable {start : Nat}

theorem drop_eq_span_append
    (m : CodeMap)
    {stop : Nat}
    (hOrder : start ≤ stop) :
    m.cells.toList.drop start =
      m.span start stop ++ m.cells.toList.drop stop := by
  have hCut :=
    List.take_append_drop (stop - start) (m.cells.toList.drop start)
  rw [List.drop_drop, Nat.add_sub_cancel' hOrder] at hCut
  exact hCut.symm

/- From a bracket to what closes it all is well nested. -/
theorem nested_span_of_matchingClose
    {k : Bracket}
    {close : Nat}
    (hNested : Nested Set.univ m.cells.toList)
    (hOpening : m.HasCode start k.opening)
    (hClose : m.matchingClose start = .ok (some close)) :
    start ≤ close + 1 ∧
      Nested Set.univ (m.span start (close + 1)) := by
  rcases hNested.exists_partner (Set.mem_univ k)
      hOpening.getElem?_eq with ⟨other, hPartners⟩
  have hSame := hPartners.matchingClose_eq hOpening
  rw [hClose] at hSame
  cases hSame
  rcases hPartners with
    ⟨k, hKind, before, inner, behind, hCells, hInner, rfl, rfl⟩
  have hLength :
      before.length + inner.length + 1 + 1 - before.length =
        (k.openingCell :: (inner ++ [k.closingCell])).length := by
    simp
    omega
  have hSpan :
      m.span before.length (before.length + inner.length + 1 + 1) =
        k.openingCell :: (inner ++ [k.closingCell]) := by
    have hBehind :
        m.cells.toList.drop before.length =
          (k.openingCell :: (inner ++ [k.closingCell])) ++
            behind := by
      rw [hCells, List.drop_left' rfl]
      simp
    rw [span, hBehind, hLength, List.take_left' rfl]
  rw [hSpan]
  exact ⟨by omega, .pair hKind hInner .nil⟩

/- A byte that is no bracket. -/
def IsBracketFree (b : UInt8) : Prop :=
  ∀ k : Bracket, b ≠ k.opening ∧ b ≠ k.closing

/- One byte more, which is no bracket. -/
theorem nested_span_succ
    {offset : Nat}
    {b : UInt8}
    (hNested : Nested Set.univ (m.span start offset))
    (hOrder : start ≤ offset)
    (hByte : m.byte? offset = some b)
    (hFree : IsBracketFree b) :
    Nested Set.univ (m.span start (offset + 1)) := by
  rcases Option.map_eq_some_iff.mp hByte with ⟨c, hCell, rfl⟩
  have hHere : m.span offset (offset + 1) = [c] := by
    rw [span, Nat.add_sub_cancel_left, List.take_one,
      List.head?_drop, Array.getElem?_toList, hCell]
    rfl
  have hOther :
      ∀ k ∈ Set.univ (α := Bracket),
        c ≠ k.openingCell ∧ c ≠ k.closingCell := by
    intro k _
    exact
      ⟨fun hSame => (hFree k).1 (congrArg Cell.byte hSame),
        fun hSame => (hFree k).2 (congrArg Cell.byte hSame)⟩
  rw [m.span_append hOrder (Nat.le_succ offset), hHere]
  exact hNested.append (.other c hOther .nil)

/- Blanks can be passed over. -/
theorem nested_span_skipSpace
    (m : CodeMap)
    (start : Nat) :
    Nested Set.univ (m.span start (m.skipSpace start)) := by
  have hSpaces :
      start ≤ m.skipSpace start ∧
        Nested Set.univ (m.span start (m.skipSpace start)) := by
    apply m.skipSpace_induction
      (motive := fun offset =>
        start ≤ offset ∧ Nested Set.univ (m.span start offset))
    · rw [span_self]
      exact ⟨Nat.le_refl start, .nil⟩
    · rintro offset b hByte hSpace ⟨hOrder, hNested⟩
      have hFree : IsBracketFree b := by
        have hCases :
            b = 32 ∨ b = 9 ∨ b = 10 ∨ b = 12 ∨ b = 13 := by
          simpa [isSpace, or_assoc] using hSpace
        intro k
        rcases hCases with rfl | rfl | rfl | rfl | rfl <;>
          cases k <;> decide
      exact
        ⟨Nat.le_succ_of_le hOrder,
          nested_span_succ hNested hOrder hByte hFree⟩
  exact hSpaces.2

------------------------------------------------------------
-- Remaining Cells
------------------------------------------------------------

/- The cells from an offset on that no edit replaces. -/
def remaining (m : CodeMap) : Nat → List Edit → List Cell
  | offset, [] => m.cells.toList.drop offset
  | offset, e :: later =>
    m.span offset e.start ++ remaining m e.stop later

/- Where edits replace parts by nothing, these bytes are left. -/
theorem remaining_bytes
    {edits : List Edit}
    {offset : Nat}
    (hOrder : inOrder offset edits = true)
    (hEmpty : ∀ e ∈ edits, e.replacement = "") :
    (m.remaining offset edits).map (·.byte) =
      editedFrom offset (m.bytes.drop offset) edits := by
  induction edits generalizing offset with
  | nil => exact List.map_drop
  | cons e later ih =>
      rcases List.forall_mem_cons.mp hEmpty with ⟨hHere, hLater⟩
      simp only [inOrder, Bool.and_eq_true, decide_eq_true_eq]
        at hOrder
      rcases hOrder with ⟨⟨hAfter, hLonger⟩, hOrder⟩
      have hNothing : bytesOf e.replacement = [] := by
        rw [hHere, bytesOf_eq_flatMap]
        rfl
      rw [remaining, List.map_append, ih hOrder hLater, editedFrom,
        hNothing, List.append_nil, List.drop_drop,
        Nat.add_sub_cancel' (Nat.le_trans hAfter hLonger), span,
        List.map_take, List.map_drop]
      rfl

/- Well nested parts leave well nested cells. -/
theorem nested_remaining
    {edits : List Edit}
    {offset : Nat}
    (front : List Cell)
    (hOrder : inOrder offset edits = true)
    (hParts :
      ∀ e ∈ edits, Nested Set.univ (m.span e.start e.stop))
    (hNested :
      Nested Set.univ (front ++ m.cells.toList.drop offset)) :
    Nested Set.univ (front ++ m.remaining offset edits) := by
  induction edits generalizing offset front with
  | nil => exact hNested
  | cons e later ih =>
      rcases List.forall_mem_cons.mp hParts with ⟨hHere, hLater⟩
      simp only [inOrder, Bool.and_eq_true, decide_eq_true_eq]
        at hOrder
      rcases hOrder with ⟨⟨hAfter, hLonger⟩, hOrder⟩
      rw [m.drop_eq_span_append hAfter,
        m.drop_eq_span_append hLonger, ← List.append_assoc,
        hHere.cut_iff] at hNested
      rw [remaining, ← List.append_assoc]
      exact ih _ hOrder hLater hNested

end CodeMap

end Devirt

------------------------------------------------------------
-- Reading Again
------------------------------------------------------------

namespace Devirt

open CodeMap

namespace Scanner

/-
  A stretch without slashes of code is read as the same cells in
  every state of the same mode, if the byte ahead of it is the
  same or marks no comment.
-/
theorem Reads.again
    {s t u : State}
    {before bytes after ahead : List UInt8}
    {cells : List Cell}
    (hReads : Reads s before bytes after cells u)
    (behind : List UInt8)
    (hMode : t.mode = s.mode)
    (hFits : s.mode.Fits (bytes ++ after))
    (hCode : Undivided cells)
    (hAhead :
      ahead.head? = after.head? ∨
        ∀ b ∈ after.head?, b ≠ slash ∧ b ≠ asterisk) :
    ∃ v, v.mode = u.mode ∧ Reads t behind bytes ahead cells v := by
  induction hReads generalizing t behind with
  | nil s before after => exact ⟨t, hMode, .nil t behind ahead⟩
  | @cons s between u before bytes after b code cells hStep _ ih =>
      rcases List.forall_mem_cons.mp hCode with ⟨hHere, hLater⟩
      have hSlash :
          (step s before b (bytes ++ after)).1 = true →
            b ≠ slash := by
        rw [hStep]
        exact hHere
      have hHead :
          s.mode = .top → b = slash →
            (bytes ++ ahead).head? = (bytes ++ after).head? := by
        intro hTop hSame
        cases bytes with
        | cons next rest => rfl
        | nil =>
            rcases hAhead with hAlike | hPlain
            · exact hAlike
            -- the slash would begin a comment with the byte ahead
            · have hLiteral :
                  (stepTop s.last before slash after).1 =
                    false := by
                rw [hSame] at hSlash
                have hNever := mt hSlash (not_not_intro rfl)
                unfold step at hNever
                rw [hTop] at hNever
                exact Bool.eq_false_iff.mpr hNever
              rcases comment_of_slash hLiteral with
                ⟨hMark, -⟩ | ⟨hMark, -⟩
              · exact absurd rfl (hPlain slash hMark).1
              · exact absurd rfl (hPlain asterisk hMark).2
      have hFits : s.mode.Fits (b :: (bytes ++ after)) := hFits
      have hAgrees :=
        step_agrees behind hMode hFits hSlash hHead
      have hNextFits := step_fits before hFits
      rw [hStep] at hAgrees hNextFits
      rcases ih (b :: behind) hAgrees.2 hNextFits hLater hAhead with
        ⟨v, hEnd, hRest⟩
      have hRead :
          step t behind b (bytes ++ ahead) =
            (code, (step t behind b (bytes ++ ahead)).2) :=
        Prod.ext hAgrees.1 rfl
      exact ⟨v, hEnd, .cons hRead hRest⟩

end Scanner

namespace CodeMap

open Scanner

/- What stands between two offsets is read as its cells. -/
theorem reads_span
    (bytes : List UInt8)
    {start stop : Nat}
    (hOrder : start ≤ stop)
    (hInside : stop ≤ bytes.length) :
    Reads (stateAt bytes start) (bytes.take start).reverse
      ((bytes.drop start).take (stop - start)) (bytes.drop stop)
      ((ofBytes bytes).span start stop) (stateAt bytes stop) := by
  rcases exists_reads (stateAt bytes start) (bytes.take start).reverse
      ((bytes.drop start).take (stop - start)) (bytes.drop stop) with
    ⟨cells, t, hReads⟩
  have hBytes :
      bytes.take start ++
          ((bytes.drop start).take (stop - start) ++
            bytes.drop stop) =
        bytes := by
    have hParts :=
      Rule.drop_eq_parts bytes (Nat.zero_le start) hOrder
    rw [List.drop_zero, Nat.sub_zero] at hParts
    exact hParts.symm
  have hFront : (bytes.take start).length = start := by
    rw [List.length_take]
    omega
  have hLength :
      ((bytes.drop start).take (stop - start)).length =
        stop - start := by
    rw [List.length_take, List.length_drop]
    omega
  have hIn :
      ReadsIn (bytes.take start)
        ((bytes.drop start).take (stop - start)) (bytes.drop stop)
        cells t := by
    unfold ReadsIn
    rw [hBytes, hFront]
    exact hReads
  have hState : stateAt bytes stop = t := by
    have hBehind := hIn.stateAt_eq
    rw [hBytes, hFront, hLength, Nat.add_sub_cancel' hOrder]
      at hBehind
    exact hBehind
  have hCells : (ofBytes bytes).span start stop = cells := by
    apply List.ext_getElem?
    intro index
    rw [span, List.getElem?_take, List.getElem?_drop,
      Array.getElem?_toList]
    split_ifs with hIndex
    · rw [← hLength] at hIndex
      have hCell := getElem?_stretch hIn hIndex
      rw [hBytes, hFront] at hCell
      exact hCell
    · rw [eq_comm, List.getElem?_eq_none_iff, hReads.length_eq,
        hLength]
      omega
  rw [hState, hCells]
  exact hReads

theorem exists_reads_span
    {bytes : List UInt8}
    {start stop : Nat}
    {t : State}
    (ahead behind : List UInt8)
    (hOrder : start ≤ stop)
    (hInside : stop ≤ bytes.length)
    (hCode : Undivided (ofBytes bytes).cells.toList)
    (hMode : t.mode = (stateAt bytes start).mode)
    (hAhead :
      ahead.head? = (bytes.drop stop).head? ∨
        ∀ b ∈ (bytes.drop stop).head?, b ≠ slash ∧ b ≠ asterisk) :
    ∃ u,
      u.mode = (stateAt bytes stop).mode ∧
        Reads t behind
          (((ofBytes bytes).span start stop).map (·.byte)) ahead
          ((ofBytes bytes).span start stop) u := by
  have hReads := reads_span bytes hOrder hInside
  have hParts :
      bytes.drop start =
        (bytes.drop start).take (stop - start) ++
          bytes.drop stop := by
    have hCut :=
      List.take_append_drop (stop - start) (bytes.drop start)
    rw [List.drop_drop, Nat.add_sub_cancel' hOrder] at hCut
    exact hCut.symm
  have hFits := stateAt_fits bytes start
  rw [hParts] at hFits
  have hPart : Undivided ((ofBytes bytes).span start stop) :=
    fun c hMember =>
      hCode c (List.mem_of_mem_drop (List.mem_of_mem_take hMember))
  rw [hReads.bytes_eq]
  exact hReads.again behind hMode hFits hPart hAhead

/-
  An edit takes out a part of a script that begins with a byte
  of code, with the top level behind it.
-/
structure CutsOut (bytes : List UInt8) (e : Edit) : Prop where
  empty : e.replacement = ""
  first :
    ∃ b, (ofBytes bytes).HasCode e.start b ∧ IsPlain b ∧
      b ≠ asterisk
  inside : e.stop ≤ bytes.length
  behind : TopAt bytes e.stop

/- What is left is read as the cells that it had. -/
theorem reads_remaining
    {bytes : List UInt8}
    {edits : List Edit}
    {offset : Nat}
    {t : State}
    (behind : List UInt8)
    (hOrder : inOrder offset edits = true)
    (hEdits : ∀ e ∈ edits, CutsOut bytes e)
    (hOffset : offset ≤ bytes.length)
    (hCode : Undivided (ofBytes bytes).cells.toList)
    (hMode : t.mode = (stateAt bytes offset).mode) :
    ∃ u,
      Reads t behind
        (((ofBytes bytes).remaining offset edits).map (·.byte)) []
        ((ofBytes bytes).remaining offset edits) u := by
  induction edits generalizing offset t behind with
  | nil =>
      have hAll :
          (ofBytes bytes).remaining offset [] =
            (ofBytes bytes).span offset bytes.length := by
        have hLength := length_bytes (ofBytes bytes)
        rw [bytes_ofBytes] at hLength
        rw [remaining, span, List.take_of_length_le]
        rw [List.length_drop, Array.length_toList, hLength]
        rfl
      rw [hAll]
      rcases exists_reads_span [] behind hOffset
          (Nat.le_refl _) hCode hMode (Or.inl (by simp)) with
        ⟨u, -, hReads⟩
      exact ⟨u, hReads⟩
  | cons e later ih =>
      rcases List.forall_mem_cons.mp hEdits with ⟨hHere, hLater⟩
      simp only [inOrder, Bool.and_eq_true, decide_eq_true_eq]
        at hOrder
      rcases hOrder with ⟨⟨hAfter, hLonger⟩, hOrder⟩
      rcases hHere.first with ⟨b, hFirst, hPlain, hOther⟩
      have hByte :=
        ((hasCode_ofBytes_iff bytes e.start b).mp hFirst).1
      have hTop : TopAt bytes e.start :=
        (hasCode_iff_topAt hByte hPlain).mp hFirst
      have hAhead :
          ∀ other ∈ (bytes.drop e.start).head?,
            other ≠ slash ∧ other ≠ asterisk := by
        intro other hHead
        rw [List.head?_drop, hByte] at hHead
        cases hHead
        exact ⟨hPlain.slash, hOther⟩
      rcases exists_reads_span
          (((ofBytes bytes).remaining e.stop later).map (·.byte) ++
            [])
          behind hAfter (Nat.le_trans hLonger hHere.inside) hCode
          hMode (Or.inr hAhead) with
        ⟨between, hBetween, hKept⟩
      have hBehind : TopAt bytes e.stop := hHere.behind
      have hSame :
          between.mode = (stateAt bytes e.stop).mode :=
        (hBetween.trans hTop).trans hBehind.symm
      rcases ih _ hOrder hLater hHere.inside hSame with
        ⟨u, hRest⟩
      rw [remaining, List.map_append]
      exact ⟨u, hKept.append hRest⟩

/-
  Where no slash is code, the scanner finds in the result the
  cells that were left.
-/
theorem cells_of_removal
    {code result : String}
    {edits : List Edit}
    (hEdits : ∀ e ∈ edits, CutsOut (bytesOf code) e)
    (hCode : Undivided (ofText code).cells.toList)
    (hResult : (ofText code).applyEdits edits = .ok result) :
    (ofText result).cells.toList =
      (ofText code).remaining 0 edits := by
  unfold applyEdits at hResult
  split_ifs at hResult with hMade
  rcases Bool.and_eq_true_iff.mp hMade with ⟨hOrder, hWhole⟩
  rcases rewrites_of_isWhole hOrder (List.all_eq_true.mp hWhole)
      (isBoundary_zero (cuttable_ofText code))
      (List.drop_zero (l := bytesOf code)).symm with
    ⟨text, -, hText⟩
  have hSame : text = result := by
    rw [bytes_ofText, ← hText, textOf_bytesOf] at hResult
    exact Except.ok.inj hResult
  subst hSame
  have hBytes :=
    remaining_bytes (m := ofText code) hOrder
      fun e hMember => (hEdits e hMember).empty
  rw [List.drop_zero, bytes_ofText, ← hText] at hBytes
  have hMode :
      State.initial.mode = (stateAt (bytesOf code) 0).mode := by
    rw [stateAt_zero]
  rcases reads_remaining [] hOrder hEdits (Nat.zero_le _) hCode
      hMode with ⟨u, hReads⟩
  have hScan := hReads.scan_eq
  rw [List.append_nil] at hScan
  rw [ofText, cells_ofBytes, ← hBytes]
  exact hScan.trans (List.append_nil _)

end CodeMap

end Devirt

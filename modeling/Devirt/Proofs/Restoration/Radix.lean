import Devirt.Proofs.Restoration.Collapsing

/-
  Writing the hexadecimal numerals of ASCII scripts in decimal.

  The edits of the rule are made one after the other, and there
  is one for each numeral that is code and stands apart.  So a
  script and its result are in the relation that does just
  this.  Its results are read as it says and have no such
  numerals, so nothing is left to be done a second time.

  Main declarations:
    * `HexNumeral.Collapse.isApart`,
      `HexNumeral.exists_collapse`
    * `collapses_of_edits`, `hexNumeral_cautious`
    * `collapseHexNumerals_normalizes`
-/

------------------------------------------------------------
-- Edits and Cells
------------------------------------------------------------

namespace Devirt

open Scanner CodeMap Pattern

theorem CodeMap.length_cells
    (m : CodeMap) :
    m.cells.toList.length = m.size :=
  Array.length_toList

/- Code that is ASCII is shown as it is. -/
theorem CodeMap.map_mask_codeCells
    {cs : List Char}
    (hSmall : Pattern.Small cs) :
    (codeCells (cs.map byte)).map Cell.mask = cs := by
  rw [codeCells, List.map_map, List.map_map]
  refine (List.map_congr_left ?_).trans (List.map_id cs)
  intro c hMember
  have hByte := byte_ascii (hSmall c hMember)
  have hChar := byte_ofNat hByte
  simp only [Function.comp_apply, Cell.mask, hByte,
    Bool.true_and, decide_true, if_true, id_eq]
  exact byte_injective hChar.1 (hSmall c hMember) hChar.2

/- Nothing that continues a word is shown for other bytes. -/
theorem CodeMap.isWord_mask
    {c : Cell}
    (hByte : continuesWord c.byte = false) :
    Text.isWord (Cell.mask c) = false := by
  unfold Cell.mask
  split_ifs with hShown
  · have hAscii : c.byte < 128 := by
      simp only [Bool.and_eq_true, decide_eq_true_eq] at hShown
      exact hShown.2
    have hChar := byte_ofNat hAscii
    rw [isWord_eq_continuesWord hChar.1, hChar.2]
    exact hByte
  · decide

namespace HexNumeral

theorem length_cells
    (n : HexNumeral) :
    n.cells.length = n.text.length := by
  simp [cells, codeCells]

/- What an edit changes, in cells. -/
theorem Collapse.drop_eq
    {bytes : List UInt8}
    {e : Edit}
    {lead : List Char}
    {n : HexNumeral}
    (hAscii : IsAscii bytes)
    (hCollapse : Collapse (ofBytes bytes) e lead n) :
    (ofBytes bytes).cells.toList.drop e.start =
      codeCells (lead.map byte) ++
        (n.cells ++ (ofBytes bytes).cells.toList.drop e.stop) := by
  have hPart :=
    cellsBetween_eq_part hAscii hCollapse.isCode
  have hStop := hCollapse.shown.stop_eq
  rw [hCollapse.shown.part_eq, List.map_append,
    codeCells_append] at hPart
  have hSplit :=
    List.take_append_drop (e.stop - e.start)
      ((ofBytes bytes).cells.toList.drop e.start)
  rw [hPart, List.drop_drop,
    Nat.add_sub_cancel' (by omega : e.start ≤ e.stop),
    List.append_assoc] at hSplit
  exact hSplit.symm

theorem Collapse.drop_numeral
    {bytes : List UInt8}
    {e : Edit}
    {lead : List Char}
    {n : HexNumeral}
    (hAscii : IsAscii bytes)
    (hCollapse : Collapse (ofBytes bytes) e lead n) :
    (ofBytes bytes).cells.toList.drop (e.start + lead.length) =
      n.cells ++ (ofBytes bytes).cells.toList.drop e.stop := by
  rw [← List.drop_drop, hCollapse.drop_eq hAscii,
    List.drop_left' (by simp [codeCells])]

/- The last cell that an edit changes. -/
theorem Collapse.getLast?_take
    {bytes : List UInt8}
    {e : Edit}
    {lead : List Char}
    {n : HexNumeral}
    (hAscii : IsAscii bytes)
    (hCollapse : Collapse (ofBytes bytes) e lead n) :
    ((ofBytes bytes).cells.toList.take e.stop).getLast? =
      n.cells.getLast? := by
  have hCells : n.cells ≠ [] := by
    simp [cells, text, codeCells]
  rw [hCollapse.shown.stop_eq, List.take_add,
    hCollapse.drop_numeral hAscii,
    List.take_left' n.length_cells,
    List.getLast?_append_of_ne_nil _ hCells]

theorem Collapse.bytesOf_replacement
    {m : CodeMap}
    {e : Edit}
    {lead : List Char}
    {n : HexNumeral}
    (hCollapse : Collapse m e lead n) :
    bytesOf e.replacement =
      lead.map byte ++ n.decimal.map byte := by
  have hSmall : ∀ c ∈ lead ++ n.decimal, c.toNat < 128 :=
    List.forall_mem_append.mpr
      ⟨hCollapse.shown.lead_small (small_masked m),
        n.decimal_ascii⟩
  rw [hCollapse.writes, bytesOf_ofList hSmall, List.map_append]

/- What an edit changes is apart from everything else. -/
theorem Collapse.isApart
    {bytes : List UInt8}
    {e : Edit}
    {lead : List Char}
    {n : HexNumeral}
    (hAscii : IsAscii bytes)
    (hCollapse : Collapse (ofBytes bytes) e lead n) :
    IsApart
      ((ofBytes bytes).cells.toList.take
        (e.start + lead.length)).getLast?
      ((ofBytes bytes).cells.toList.drop e.stop) := by
  have hAt := hCollapse.shown
  refine ⟨?_, ?_⟩
  · intro c hLast
    have hSmall := hAt.lead_small (small_masked _)
    rcases hAt.lead_separates with
      ⟨rfl, hStart⟩ | ⟨d, rfl, hSeparates⟩
    · rw [hStart] at hLast
      cases hLast
    · rw [List.take_add, hCollapse.drop_eq hAscii] at hLast
      have hCell : c = ⟨byte d, true⟩ := by
        simpa [codeCells] using hLast.symm
      rw [hCell]
      exact
        ⟨rfl, (isSeparator_iff (hSmall d (by simp))).mp hSeparates⟩
  · intro c hHead
    rw [List.head?_drop, Array.getElem?_toList] at hHead
    apply hCollapse.ends
    rw [byte?, Option.mem_def.mp hHead]
    rfl

/- What sets a numeral apart leads to it. -/
theorem exists_lead
    {bytes : List UInt8}
    {offset : Nat}
    {rest : List Cell}
    (hAscii : IsAscii bytes)
    (hCells : (ofBytes bytes).cells.toList.drop offset = rest)
    (hInside : offset ≤ (ofBytes bytes).size)
    (hApart :
      SetsApart
        ((ofBytes bytes).cells.toList.take offset).getLast?) :
    ∃ start lead,
      start + lead.length = offset ∧ Pattern.Small lead ∧
        Cleanup.Separates start 0 lead ∧
          (ofBytes bytes).cells.toList.drop start =
            codeCells (lead.map byte) ++ rest := by
  cases offset with
  | zero =>
      exact
        ⟨0, [], rfl, by simp [Pattern.Small],
          Or.inl ⟨rfl, rfl⟩, hCells⟩
  | succ offset =>
      have hHere :
          offset < (ofBytes bytes).cells.toList.length := by
        simpa [CodeMap.size] using hInside
      rw [List.take_add_one, List.getElem?_eq_getElem hHere,
        Option.toList_some, List.getLast?_append,
        List.getLast?_singleton, Option.some_or] at hApart
      rw [← hCells]
      generalize hCell :
        (ofBytes bytes).cells.toList[offset] = cell at hApart
      have hByte : cell.byte < 128 := by
        apply hAscii
        apply mem_cells_ofBytes
        rw [← hCell]
        exact List.getElem_mem hHere
      rcases hApart cell rfl with ⟨hCode, hOther⟩
      rcases byte_ofNat hByte with ⟨hSmall, hSame⟩
      refine
        ⟨offset, [Char.ofNat cell.byte.toNat], rfl, ?_,
          Or.inr ⟨_, rfl, ?_⟩, ?_⟩
      · simpa [Pattern.Small] using hSmall
      · rw [isSeparator_iff hSmall, hSame]
        exact hOther
      · rw [List.drop_eq_getElem_cons hHere, hCell]
        simp [codeCells, hSame, ← hCode]

/- A numeral that is code and apart is changed by an edit. -/
theorem exists_collapse
    {bytes : List UInt8}
    {offset : Nat}
    {n : HexNumeral}
    {rest : List Cell}
    (hAscii : IsAscii bytes)
    (hCells :
      (ofBytes bytes).cells.toList.drop offset = n.cells ++ rest)
    (hApart :
      IsApart ((ofBytes bytes).cells.toList.take offset).getLast?
        rest) :
    ∃ e lead,
      Collapse (ofBytes bytes) e lead n ∧
        e.start + lead.length = offset := by
  have hLength := congrArg List.length hCells
  have hText := n.text_length_pos
  rw [List.length_append, n.length_cells, List.length_drop,
    CodeMap.length_cells] at hLength
  rcases exists_lead hAscii hCells (by omega) hApart.before with
    ⟨start, lead, hOffset, hSmall, hSeparates, hDrop⟩
  let stop := offset + n.text.length
  have hRest : (ofBytes bytes).cells.toList.drop stop = rest := by
    rw [← List.drop_drop, hCells,
      List.drop_left' n.length_cells]
  let e : Edit :=
    ⟨start, stop, String.ofList (lead ++ n.decimal)⟩
  refine ⟨e, lead, ⟨⟨?_, ?_, hSeparates, ?_⟩, ?_, rfl⟩, hOffset⟩
  · rw [masked, ← List.map_drop, ← List.map_drop, hDrop, hRest,
      List.map_append, List.map_append, cells,
      map_mask_codeCells hSmall, map_mask_codeCells n.text_ascii]
  · rw [hOffset]
  · intro c hShown
    rw [masked, List.getElem?_map, ← List.head?_drop, hRest]
      at hShown
    rcases Option.map_eq_some_iff.mp hShown with
      ⟨cell, hHead, rfl⟩
    exact isWord_mask (hApart.rest cell hHead)
  · have hBetween :
        ((ofBytes bytes).cells.toList.drop start).take
            (stop - start) =
          codeCells ((lead ++ n.text).map byte) := by
      have hSpan :
          stop - start = (lead ++ n.text).length := by
        rw [List.length_append]
        omega
      rw [hDrop, ← List.append_assoc, cells, ← codeCells_append,
        ← List.map_append, List.take_left' (by
          simp only [codeCells, List.length_map]
          exact hSpan.symm)]
    rw [isCodeBetween, ← Array.all_toList, Array.toList_extract]
    change (List.take (stop - start) _).all _ = true
    rw [hBetween]
    simp [codeCells]

end HexNumeral

/- Edits in order from an offset on begin there or later. -/
theorem le_of_mem_inOrder
    {edits : List Edit}
    {offset : Nat}
    {e : Edit}
    (hOrder : inOrder offset edits = true)
    (hMember : e ∈ edits) :
    offset ≤ e.start := by
  induction edits generalizing offset with
  | nil => cases hMember
  | cons first later ih =>
      simp only [inOrder, Bool.and_eq_true, decide_eq_true_eq]
        at hOrder
      rcases hOrder with ⟨⟨hStart, hStop⟩, hLater⟩
      rcases List.mem_cons.mp hMember with rfl | hBehind
      · exact hStart
      · have hRest := ih hLater hBehind
        omega

/- Cells before which no numeral is apart are kept. -/
theorem Collapses.keepTo
    {cells out : List Cell}
    {first last count : Nat}
    (hOrder : first ≤ last)
    (hInside : last ≤ cells.length)
    (hNone :
      ∀ offset, first ≤ offset → offset < last →
        ∀ (n : HexNumeral) (rest : List Cell),
          cells.drop offset = n.cells ++ rest →
            ¬ IsApart (cells.take offset).getLast? rest)
    (hRest :
      Collapses (cells.take last).getLast? (cells.drop last) out
        count) :
    Collapses (cells.take first).getLast? (cells.drop first)
      ((cells.drop first).take (last - first) ++ out) count := by
  induction hGap : last - first generalizing first with
  | zero =>
      have hSame : first = last := by omega
      rw [hSame, List.take_zero]
      exact hRest
  | succ gap ih =>
      have hHere : first < cells.length := by omega
      have hLater :=
        ih (show first + 1 ≤ last by omega)
          (fun offset hFrom => hNone offset (by omega)) (by omega)
      rw [List.take_add_one, List.getElem?_eq_getElem hHere,
        Option.toList_some, List.getLast?_append,
        List.getLast?_singleton, Option.some_or] at hLater
      have hHead := hNone first (Nat.le_refl _) (by omega)
      rw [List.drop_eq_getElem_cons hHere] at hHead ⊢
      exact .keep hHead hLater

/- Cells before which no edit writes a numeral are kept. -/
theorem Collapses.keepUnedited
    {bytes : List UInt8}
    {out : List Cell}
    {first last count : Nat}
    (hAscii : IsAscii bytes)
    (hOrder : first ≤ last)
    (hInside : last ≤ (ofBytes bytes).size)
    (hNone :
      ∀ e lead n,
        HexNumeral.Collapse (ofBytes bytes) e lead n →
          first ≤ e.start + lead.length →
            last ≤ e.start + lead.length)
    (hRest :
      Collapses ((ofBytes bytes).cells.toList.take last).getLast?
        ((ofBytes bytes).cells.toList.drop last) out count) :
    Collapses ((ofBytes bytes).cells.toList.take first).getLast?
      ((ofBytes bytes).cells.toList.drop first)
      (((ofBytes bytes).cells.toList.drop first).take
        (last - first) ++ out) count := by
  refine Collapses.keepTo hOrder ?_ ?_ hRest
  · rwa [length_cells]
  · intro offset hFrom hTo n rest hCells hApart
    rcases HexNumeral.exists_collapse hAscii hCells hApart with
      ⟨e, lead, hCollapse, rfl⟩
    have hBehind := hNone e lead n hCollapse hFrom
    omega

namespace HexNumeral.Collapse

variable {bytes : List UInt8}
variable {e : Edit}
variable {lead : List Char}
variable {n : HexNumeral}

/- What an edit writes is what the relation asks for. -/
theorem collapses
    {out : List Cell}
    {count : Nat}
    (hAscii : IsAscii bytes)
    (hCollapse : Collapse (ofBytes bytes) e lead n)
    (hRest :
      Collapses
        ((ofBytes bytes).cells.toList.take e.stop).getLast?
        ((ofBytes bytes).cells.toList.drop e.stop) out count) :
    Collapses
      ((ofBytes bytes).cells.toList.take
        (e.start + lead.length)).getLast?
      ((ofBytes bytes).cells.toList.drop (e.start + lead.length))
      (n.decimalCells ++ out) (count + 1) := by
  rw [hCollapse.drop_numeral hAscii]
  refine .collapse n (hCollapse.isApart hAscii) ?_
  rwa [← hCollapse.getLast?_take hAscii]

/- The bytes up to a numeral, of which an edit writes the last. -/
theorem bytes_before
    {offset : Nat}
    (hAscii : IsAscii bytes)
    (hCollapse : Collapse (ofBytes bytes) e lead n)
    (hOrder : offset ≤ e.start) :
    (((ofBytes bytes).cells.toList.drop offset).take
          (e.start + lead.length - offset)).map (·.byte) =
      ((ofBytes bytes).bytes.drop offset).take (e.start - offset) ++
        lead.map byte := by
  have hGap :
      e.start + lead.length - offset =
        e.start - offset + lead.length := by
    omega
  have hLead :
      ((ofBytes bytes).cells.toList.drop e.start).take
          lead.length =
        codeCells (lead.map byte) := by
    rw [hCollapse.drop_eq hAscii, List.take_left' (by
      simp [codeCells])]
  rw [hGap, List.take_add, List.drop_drop,
    Nat.add_sub_cancel' hOrder, hLead, List.map_append,
    codeCells_bytes, CodeMap.bytes, List.map_take, List.map_drop]

end HexNumeral.Collapse

/-
  Edits from an offset on lead to what the relation says, if
  there is one for each numeral from there on.
-/
theorem collapses_of_edits
    {bytes : List UInt8}
    {edits : List Edit}
    {offset : Nat}
    (hAscii : IsAscii bytes)
    (hInside : offset ≤ (ofBytes bytes).size)
    (hOrder : inOrder offset edits = true)
    (hEdits :
      ∀ e ∈ edits,
        ∃ lead n, HexNumeral.Collapse (ofBytes bytes) e lead n)
    (hAll :
      ∀ e lead n,
        HexNumeral.Collapse (ofBytes bytes) e lead n →
          offset ≤ e.start + lead.length → e ∈ edits) :
    ∃ out,
      Collapses
          ((ofBytes bytes).cells.toList.take offset).getLast?
          ((ofBytes bytes).cells.toList.drop offset) out
          edits.length ∧
        out.map (·.byte) =
          editedFrom offset ((ofBytes bytes).bytes.drop offset)
            edits := by
  induction edits generalizing offset with
  | nil =>
      have hEnd :
          Collapses
            ((ofBytes bytes).cells.toList.take
              (ofBytes bytes).size).getLast?
            ((ofBytes bytes).cells.toList.drop
              (ofBytes bytes).size) [] 0 := by
        rw [← length_cells, List.drop_length]
        exact .done _
      refine
        ⟨_, hEnd.keepUnedited hAscii hInside (Nat.le_refl _) ?_, ?_⟩
      · intro e lead n hCollapse hFrom
        cases hAll e lead n hCollapse hFrom
      · have hShort :
            ((ofBytes bytes).cells.toList.drop offset).length ≤
              (ofBytes bytes).size - offset := by
          rw [List.length_drop, length_cells]
        rw [List.append_nil, List.take_of_length_le hShort,
          List.map_drop]
        rfl
  | cons e later ih =>
      rcases hEdits e List.mem_cons_self with
        ⟨lead, n, hCollapse⟩
      have hAt := hCollapse.shown
      have hText := n.text_length_pos
      have hStop := hAt.stop_eq
      have hStopInside := hAt.stop_le
      rw [length_masked] at hStopInside
      simp only [inOrder, Bool.and_eq_true, decide_eq_true_eq]
        at hOrder
      rcases hOrder with ⟨⟨hStart, -⟩, hLater⟩
      -- a numeral from here on is this one or a later one
      have hCases :
          ∀ e' lead' n',
            HexNumeral.Collapse (ofBytes bytes) e' lead' n' →
              offset ≤ e'.start + lead'.length →
                e'.start + lead'.length =
                    e.start + lead.length ∨
                  e' ∈ later := by
        intro e' lead' n' hCollapse' hFrom
        rcases List.mem_cons.mp
            (hAll e' lead' n' hCollapse' hFrom) with
          rfl | hMember
        · rcases hAt.unique hCollapse'.shown with ⟨rfl, -⟩
          exact Or.inl rfl
        · exact Or.inr hMember
      rcases ih hStopInside hLater
          (fun e' hMember =>
            hEdits e' (List.mem_cons_of_mem _ hMember))
          (by
            intro e' lead' n' hCollapse' hFrom
            rcases hCases e' lead' n' hCollapse' (by omega) with
              hSame | hMember
            · omega
            · exact hMember) with
        ⟨out, hRest, hOut⟩
      refine
        ⟨_, (hCollapse.collapses hAscii hRest).keepUnedited hAscii
          (by omega) (by omega) ?_, ?_⟩
      · intro e' lead' n' hCollapse' hFrom
        rcases hCases e' lead' n' hCollapse' hFrom with
          hSame | hMember
        · exact Nat.le_of_eq hSame.symm
        · have hBehind := le_of_mem_inOrder hLater hMember
          omega
      · rw [List.map_append, hCollapse.bytes_before hAscii hStart,
          List.map_append, hOut, HexNumeral.decimalCells,
          codeCells_bytes, editedFrom,
          hCollapse.bytesOf_replacement, List.drop_drop,
          Nat.add_sub_cancel' (by omega : offset ≤ e.stop)]
        simp only [List.append_assoc]

------------------------------------------------------------
-- The Rule
------------------------------------------------------------

/- Numerals are written with digits alone. -/
theorem hexNumeral_cautious : hexNumeral.Cautious := by
  intro text found here there replacement hText hLocated hSome
  rcases hexNumeral_at hLocated with ⟨lead, n, hAt, hReplace⟩
  rw [hReplace] at hSome
  cases hSome
  refine
    ⟨lead, '0', n.mark :: n.digits, n.decimal, [], ?_, ?_,
      by decide, ?_, ?_⟩
  · rw [hAt.part_eq, List.append_nil]
    rfl
  · rw [List.append_nil]
  · intro c hMember
    exact
      not_mem_of_class (by decide)
        (n.text_word c (List.mem_cons_of_mem _ hMember))
  · intro c hMember
    exact
      ⟨n.decimal_ascii c hMember,
        not_mem_of_class (by decide)
          (n.decimal_isDigit c hMember)⟩

/- The scanner reads the result of the rule as it should. -/
theorem collapses_edited
    {code : String}
    (hAscii : IsAscii (bytesOf code)) :
    Collapses none (ofText code).cells.toList
      (ofText (hexNumeral.edited code)).cells.toList
      (hexNumeral.edits (ofText code)).length := by
  rcases collapses_of_edits hAscii (Nat.zero_le _)
      (hexNumeral.edits_inOrder (ofText code))
      (fun e hEdit => mem_edits_hexNumeral.mp hEdit)
      (fun e lead n hCollapse _ =>
        mem_edits_hexNumeral.mpr ⟨lead, n, hCollapse⟩) with
    ⟨out, hCollapses, hOut⟩
  have hBytes := (hexNumeral_cautious.edited_recodes hAscii).1
  have hScan :=
    hCollapses.scan_eq rfl (cells_ofBytes (bytesOf code))
      (Alike.refl State.initial []) trivial
  rw [hOut, List.drop_zero, bytes_ofBytes, ← hBytes] at hScan
  have hNext :
      (ofText (hexNumeral.edited code)).cells.toList = out :=
    hScan
  rw [hNext]
  exact hCollapses

/- A script is known from its cells. -/
theorem eq_of_cells
    {code next : String}
    (hCells :
      (ofText code).cells.toList = (ofText next).cells.toList) :
    code = next := by
  have hBytes : (ofText code).bytes = (ofText next).bytes :=
    congrArg (List.map Cell.byte) hCells
  rw [bytes_ofText, bytes_ofText] at hBytes
  exact bytesOf_injective hBytes

/-
  Writing numerals in decimal succeeds on ASCII scripts.  All
  numerals that are code and stand apart are written in decimal
  and everything else is kept, code as code and literals as
  literals.  A second time nothing changes.
-/
theorem collapseHexNumerals_normalizes
    {code : String}
    (hAscii : IsAscii (bytesOf code)) :
    ∃ next count,
      collapseHexNumerals code = .ok (next, count) ∧
        Collapses none (ofText code).cells.toList
          (ofText next).cells.toList count ∧
          collapseHexNumerals next = .ok (next, 0) := by
  have hCollapses := collapses_edited hAscii
  refine
    ⟨_, _, hexNumeral_cautious.apply_eq hAscii, hCollapses, ?_⟩
  have hNext := (hexNumeral_cautious.edited_recodes hAscii).2.1
  rcases (hCollapses.again Iff.rfl).unique
      (collapses_edited hNext) with
    ⟨hCells, hCount⟩
  have hApply := hexNumeral_cautious.apply_eq hNext
  rw [hCount, eq_of_cells hCells] at hApply
  exact hApply

/- A numeral among literals and members. -/
def mixedNumerals : String :=
  "a[0x1f] + b.x0x2 + '0x10' + 0XA/2 // 0x1"

theorem mixedNumerals_normalize :
    IsAscii (bytesOf mixedNumerals) ∧
      collapseHexNumerals mixedNumerals =
          .ok ("a[31] + b.x0x2 + '0x10' + 10/2 // 0x1", 2) ∧
        ∃ next count,
          collapseHexNumerals mixedNumerals = .ok (next, count) ∧
            Collapses none (ofText mixedNumerals).cells.toList
              (ofText next).cells.toList count ∧
              collapseHexNumerals next = .ok (next, 0) := by
  refine ⟨by decide +kernel, by decide +kernel, ?_⟩
  exact collapseHexNumerals_normalizes (by decide +kernel)

end Devirt

import Devirt.Proofs.Restoration.Faultless
import Devirt.Proofs.Restoration.Inlining
import Devirt.Proofs.Source.Brackets
import Devirt.Proofs.Source.Restarting

/-
  What stands behind a table of strings.

  References are replaced in the part behind the table only,
  and this part is scanned on its own.  The scanner comes to it
  at the top level, behind the closing bracket of the table.
  There a slash divides, but for a scan that begins there it
  can begin a regular expression.  Only then do the two differ,
  and what is a literal for the script may be code for the
  references.

  Main declarations:
    * `StringTable.find?_closed`, `StringTable.stateAt_stop`
    * `StringTable.inlineReferences_tail`
    * `dividedTable_misread`
-/

------------------------------------------------------------
-- Ends of Tables
------------------------------------------------------------

namespace Devirt

open Scanner CodeMap

namespace StringTable

open Pattern

theorem firstClosed_closed
    {m : CodeMap}
    {found : List Match}
    {t : StringTable}
    (hFound :
      ∀ one ∈ found, one ∈ declaration.all m.masked)
    (hTable :
      firstClosed matchingClose m m.masked found =
        .ok (some t)) :
    ∃ close,
      t.stop = close + 1 ∧
        m.HasCode close Bracket.square.closing := by
  induction found with
  | nil => cases hTable
  | cons one rest ih =>
      rcases List.forall_mem_cons.mp hFound with ⟨hHere, hLater⟩
      have hOpening :
          m.HasCode (one.stop - 1) Bracket.square.opening :=
        (hasCode_of_masked (declaration_stop hHere) (by decide)).1
      rcases matchingClose_of_hasCode hOpening with
        ⟨closed, hClosed, hClose⟩
      unfold firstClosed at hTable
      dsimp only at hTable
      split_ifs at hTable with hCode
      · rw [hClosed] at hTable
        cases closed with
        | none => exact ih hLater hTable
        | some close =>
            cases hTable
            exact ⟨close, rfl, (hClose close rfl).2⟩
      · exact ih hLater hTable

/- A table ends right behind its closing bracket. -/
theorem find?_closed
    {code : String}
    {t : StringTable}
    (hTable : find? code = .ok (some t)) :
    ∃ close,
      t.stop = close + 1 ∧
        (ofText code).HasCode close Bracket.square.closing :=
  firstClosed_closed (fun _ hMember => hMember) hTable

/-
  Behind a closing bracket of code the scanner is at the top
  level, and the bracket is the last significant byte.
-/
theorem stateAt_closed
    {bytes : List UInt8}
    {close : Nat}
    (hClose :
      (ofBytes bytes).HasCode close Bracket.square.closing) :
    ∃ before,
      bytes.take (close + 1) =
          (Bracket.square.closing :: before).reverse ∧
        stateAt bytes (close + 1) =
          ⟨.top, some (Bracket.square.closing :: before)⟩ := by
  have hByte := ((hasCode_ofBytes_iff _ _ _).mp hClose).1
  have hTop :=
    (hasCode_iff_topAt hByte Bracket.square.closing_plain).mp
      hClose
  refine ⟨(bytes.take close).reverse, ?_, ?_⟩
  · rw [List.take_add_one, hByte]
    simp
  · unfold TopAt at hTop
    rw [stateAt_succ hByte, stepAt, step, hTop]
    rfl

/-
  In the map of a script, what stands behind a table has been
  scanned behind a bracket.
-/
theorem cells_behind
    {code : String}
    {stop : Nat}
    {s : State}
    (hInside : stop ≤ (bytesOf code).length)
    (hState : stateAt (bytesOf code) stop = s) :
    (ofText code).cells.toList.drop stop =
      scan s ((bytesOf code).take stop).reverse
        ((bytesOf code).drop stop) := by
  rcases exists_reads_start ((bytesOf code).take stop)
      ((bytesOf code).drop stop) with ⟨cells, hReads⟩
  have hLength : ((bytesOf code).take stop).length = stop :=
    List.length_take_of_le hInside
  have hScan := hReads.scan_eq
  rw [List.take_append_drop, hLength, hState, List.append_nil]
    at hScan
  have hCells := hReads.length_eq
  rw [hLength] at hCells
  rw [ofText, cells_ofBytes, hScan, ← hCells, List.drop_left]

/-
  For every source with a table, references are looked up in
  the map of the part behind the table, scanned on its own.
  It is the map of the source from there on exactly if, behind
  blanks and comments, the part does not begin with what could
  be a regular expression.
-/
theorem inlineReferences_tail
    {code : String}
    {t : StringTable}
    (hTable : find? code = .ok (some t)) :
    ∃ head tail,
      code = head ++ tail ∧
        (bytesOf head).length = t.stop ∧
        (∀ values,
          t.inlineReferences code values =
            ((inlining t.name values).apply tail).map
              fun done => (head ++ done.1, done.2)) ∧
        (ofText tail = (ofText code).behind t.stop ↔
          ¬ BeginsWithRegex (bytesOf tail)) := by
  rcases find?_closed hTable with ⟨close, hStop, hClose⟩
  have hBoundary : (ofText code).isBoundary t.stop = true := by
    rw [hStop]
    exact
      isBoundary_succ_of_ascii (cuttable_ofText code)
        hClose.byte?_eq Bracket.square.closing_ascii
  rcases exists_tail hBoundary with
    ⟨head, tail, hCode, hLength, hInlined⟩
  refine ⟨head, tail, hCode, hLength, hInlined, ?_⟩
  have hBytes : bytesOf code = bytesOf head ++ bytesOf tail := by
    rw [hCode, bytesOf_append]
  have hInside : t.stop ≤ (bytesOf code).length := by
    rw [hBytes, List.length_append, hLength]
    exact Nat.le_add_right _ _
  rcases stateAt_closed hClose with ⟨before, hFront, hState⟩
  rw [← hStop] at hFront hState
  have hOperand :
      regexAllowed (some (Bracket.square.closing :: before)) =
        false := rfl
  have hApart :
      trailingWord (Bracket.square.closing :: before) = [] := rfl
  have hCells :
      (ofText code).cells.toList.drop t.stop =
        scan ⟨.top, some (Bracket.square.closing :: before)⟩
          (Bracket.square.closing :: before) (bytesOf tail) := by
    rw [cells_behind hInside hState, hFront, List.reverse_reverse, hBytes,
      ← hLength, List.drop_left]
  rw [← scan_initial_eq_iff (bytesOf tail) hOperand hApart,
    ← hCells, ← cells_ofBytes]
  constructor
  · intro hSame
    exact congrArg (fun m : CodeMap => m.cells.toList) hSame
  · intro hSame
    exact congrArg CodeMap.mk (Array.toList_inj.mp hSame)

end StringTable

open StringTable

/- A division by a text with a reference in it. -/
def dividingTail : String := "/'/+_0x1[0]+/';"

def dividedTable : String := "var _0x1=[\"a\"]" ++ dividingTail

theorem dividedTable_begins :
    find? dividedTable = .ok (some ⟨"_0x1", 9, 14⟩) ∧
      BeginsWithRegex (bytesOf dividingTail) := by
  have hTable :
      find? dividedTable = .ok (some ⟨"_0x1", 9, 14⟩) := by
    decide +kernel
  have hDiffers :
      ofText dividingTail ≠ (ofText dividedTable).behind 14 := by
    decide +kernel
  rcases inlineReferences_tail hTable with
    ⟨head, tail, hCode, hLength, -, hAgree⟩
  have hTail : tail = dividingTail := by
    have hBytes := congrArg bytesOf hCode
    rw [dividedTable, bytesOf_append, bytesOf_append] at hBytes
    have hFront : (bytesOf "var _0x1=[\"a\"]").length = 14 := by
      decide +kernel
    exact
      (bytesOf_injective
        (List.append_inj_right hBytes
          (hFront.trans hLength.symm))).symm
  subst hTail
  refine ⟨hTable, ?_⟩
  by_contra hNone
  exact hDiffers (hAgree.mpr hNone)

/-
  The text is a literal of the script, but its reference is
  code for the scan that begins behind the table, and so it is
  replaced.
-/
theorem dividedTable_misread :
    find? dividedTable = .ok (some ⟨"_0x1", 9, 14⟩) ∧
      (ofText dividedTable).IsLiteral 16 27 ∧
        ofText dividingTail ≠ (ofText dividedTable).behind 14 ∧
          StringTable.inlineReferences ⟨"_0x1", 9, 14⟩ dividedTable
              [.text "a"] =
            .ok ("var _0x1=[\"a\"]/'/+\"a\"+/';", 1) := by
  refine ⟨by decide +kernel, ?_, by decide +kernel,
    by decide +kernel⟩
  have hCells :
      ∀ index < 11,
        (ofText dividedTable).isCode (16 + index) = false := by
    decide +kernel
  intro offset hStart hStop
  rcases Nat.exists_eq_add_of_le hStart with ⟨index, rfl⟩
  exact hCells index (by omega)

end Devirt

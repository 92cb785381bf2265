import Devirt.Proofs.Source.Showing

/-
  Scripts that are cut, and what edits make of their parts.

  A script falls apart into two texts at each offset at which
  it may be cut.  So edits that replace whole characters change
  some of its texts and keep those in between, and the result
  is put together from both.

  Main declarations:
    * `CodeMap.exists_cut`, `CodeMap.exists_slice`
    * `Rewrites`, `Rule.rewrites`
    * `Rewrites.exists_parts`
-/

------------------------------------------------------------
-- Cuts
------------------------------------------------------------

namespace Devirt

open Scanner

namespace Scanner

theorem bytesOf_append
    (s t : String) :
    bytesOf (s ++ t) = bytesOf s ++ bytesOf t := by
  rw [bytesOf_eq_flatMap, String.toList_append,
    List.flatMap_append, ← bytesOf_eq_flatMap,
    ← bytesOf_eq_flatMap]

theorem bytesOf_injective
    {s t : String}
    (hSame : bytesOf s = bytesOf t) :
    s = t := by
  rw [← CodeMap.textOf_bytesOf s, hSame, CodeMap.textOf_bytesOf]

/- Inside of a character there is nowhere to cut. -/
theorem isContinuation_inside
    {c : Char}
    {offset : Nat}
    {b : UInt8}
    (hInside : 0 < offset)
    (hByte : (String.utf8EncodeChar c)[offset]? = some b) :
    CodeMap.isContinuation b = true := by
  rcases utf8EncodeChar_continued c with
    ⟨first, hBytes, -⟩ | ⟨first, second, rest, hBytes, hRest⟩
  · rw [hBytes, List.getElem?_eq_none hInside] at hByte
    cases hByte
  · rw [hBytes, ← Nat.sub_add_cancel hInside,
      List.getElem?_cons_succ] at hByte
    exact hRest b (List.mem_of_getElem? hByte)

/- Characters fall apart where no continuation follows. -/
theorem exists_cut_of_chars
    {cs : List Char}
    {offset : Nat}
    (hInside :
      offset ≤ (cs.flatMap String.utf8EncodeChar).length)
    (hCut :
      ∀ b ∈ (cs.flatMap String.utf8EncodeChar)[offset]?,
        CodeMap.isContinuation b = false) :
    ∃ left right,
      cs = left ++ right ∧
        left.flatMap String.utf8EncodeChar =
          (cs.flatMap String.utf8EncodeChar).take offset ∧
          right.flatMap String.utf8EncodeChar =
            (cs.flatMap String.utf8EncodeChar).drop offset := by
  induction cs generalizing offset with
  | nil => exact ⟨[], [], rfl, by simp, by simp⟩
  | cons c cs ih =>
      rw [List.flatMap_cons] at hInside hCut ⊢
      by_cases hZero : offset = 0
      · exact ⟨[], c :: cs, rfl, by simp [hZero], by simp [hZero]⟩
      · by_cases hShort :
            offset < (String.utf8EncodeChar c).length
        · rw [List.getElem?_append_left hShort,
            List.getElem?_eq_getElem hShort] at hCut
          have hContinues :=
            isContinuation_inside (c := c) (by omega)
              (List.getElem?_eq_getElem hShort)
          rw [hCut _ rfl] at hContinues
          cases hContinues
        · have hPast :
              (String.utf8EncodeChar c).length ≤ offset := by
            omega
          rw [List.length_append] at hInside
          rw [List.getElem?_append_right hPast] at hCut
          rcases ih (by omega) hCut with
            ⟨left, right, rfl, hLeft, hRight⟩
          refine ⟨c :: left, right, rfl, ?_, ?_⟩
          · rw [List.flatMap_cons, hLeft, List.take_append,
              List.take_of_length_le hPast]
          · rw [hRight, List.drop_append,
              List.drop_of_length_le hPast, List.nil_append]

end Scanner

namespace CodeMap

/- A script falls apart where it may be cut. -/
theorem exists_cut
    {code : String}
    {offset : Nat}
    (hCut : (ofText code).isBoundary offset = true) :
    ∃ left right,
      code = left ++ right ∧
        bytesOf left = (bytesOf code).take offset ∧
          bytesOf right = (bytesOf code).drop offset := by
  have hInside := le_size_of_isBoundary hCut
  rw [← length_bytes, bytes_ofText, bytesOf_eq_flatMap] at hInside
  rcases exists_cut_of_chars hInside (by
      intro b hByte
      rw [← bytesOf_eq_flatMap, ← bytes_ofText,
        ← byte?_eq_getElem?] at hByte
      simpa [isBoundary, Option.mem_def.mp hByte] using hCut) with
    ⟨left, right, hSplit, hLeft, hRight⟩
  refine ⟨String.ofList left, String.ofList right, ?_, ?_, ?_⟩
  · rw [← String.ofList_append, ← hSplit, String.ofList_toList]
  · rw [bytesOf_eq_flatMap, String.toList_ofList, hLeft,
      ← bytesOf_eq_flatMap]
  · rw [bytesOf_eq_flatMap, String.toList_ofList, hRight,
      ← bytesOf_eq_flatMap]

/- What follows a cut may be cut where the script may. -/
theorem isBoundary_behind
    {code right : String}
    {start stop : Nat}
    (hRight : bytesOf right = (bytesOf code).drop start)
    (hOrder : start ≤ stop)
    (hStop : (ofText code).isBoundary stop = true) :
    (ofText right).isBoundary (stop - start) = true := by
  have hInside := le_size_of_isBoundary hStop
  have hByte :
      (ofText right).byte? (stop - start) =
        (ofText code).byte? stop := by
    rw [byte?_eq_getElem?, byte?_eq_getElem?, bytes_ofText,
      bytes_ofText, hRight, List.getElem?_drop,
      Nat.add_sub_cancel' hOrder]
  have hSize : (ofText right).size = (ofText code).size - start := by
    rw [← length_bytes, ← length_bytes, bytes_ofText,
      bytes_ofText, hRight, List.length_drop]
  unfold isBoundary at hStop ⊢
  rw [hByte, hSize]
  cases hNext : (ofText code).byte? stop with
  | some b => rwa [hNext] at hStop
  | none =>
      simp only [hNext, beq_iff_eq] at hStop ⊢
      omega

/- What lies between two cuts is a text. -/
theorem exists_slice
    {code : String}
    {start stop : Nat}
    (hOrder : start ≤ stop)
    (hStart : (ofText code).isBoundary start = true)
    (hStop : (ofText code).isBoundary stop = true) :
    ∃ text,
      (ofText code).slice start stop = .ok text ∧
        bytesOf text =
          ((bytesOf code).drop start).take (stop - start) := by
  rcases exists_cut hStart with ⟨left, right, -, -, hRight⟩
  rcases exists_cut (isBoundary_behind hRight hOrder hStop) with
    ⟨text, rest, -, hText, -⟩
  rw [hRight] at hText
  refine ⟨text, ?_, hText⟩
  rw [slice_eq hOrder hStart hStop, bytes_ofText, ← hText,
    textOf_bytesOf]

/- The bytes of what was cut out. -/
theorem bytesOf_slice
    {code text : String}
    {start stop : Nat}
    (hSlice : (ofText code).slice start stop = .ok text) :
    start ≤ stop ∧
      bytesOf text =
        ((bytesOf code).drop start).take (stop - start) := by
  unfold slice at hSlice
  split_ifs at hSlice with hCuts
  simp only [Bool.and_eq_true, decide_eq_true_eq] at hCuts
  rcases hCuts with ⟨⟨hOrder, hStart⟩, hStop⟩
  rcases exists_slice hOrder hStart hStop with
    ⟨same, hSame, hBytes⟩
  rw [slice_eq hOrder hStart hStop, Except.ok.inj hSlice] at hSame
  rw [Except.ok.inj hSame]
  exact ⟨hOrder, hBytes⟩

end CodeMap

end Devirt

------------------------------------------------------------
-- Rewritten Texts
------------------------------------------------------------

namespace Devirt

open Scanner CodeMap

/-
  Edits from an offset on make one text of another: what they
  replace goes, and what lies in between is kept.
-/
inductive Rewrites :
    Nat → List Edit → String → String → Prop where
  | done
      (offset : Nat)
      (text : String) :
      Rewrites offset [] text text
  | edit
      {offset : Nat}
      {e : Edit}
      {later : List Edit}
      {source result : String}
      (kept old : String)
      (hKept : offset + (bytesOf kept).length = e.start)
      (hOld : e.start + (bytesOf old).length = e.stop)
      (hRest : Rewrites e.stop later source result) :
      Rewrites offset (e :: later) (kept ++ (old ++ source))
        (kept ++ (e.replacement ++ result))

/- Edits of whole characters rewrite what they begin in. -/
theorem rewrites_of_isWhole
    {code source : String}
    {edits : List Edit}
    {offset : Nat}
    (hOrder : inOrder offset edits = true)
    (hWhole : ∀ e ∈ edits, (ofText code).isWhole e = true)
    (hOffset : (ofText code).isBoundary offset = true)
    (hSource : bytesOf source = (bytesOf code).drop offset) :
    ∃ result,
      Rewrites offset edits source result ∧
        bytesOf result =
          editedFrom offset (bytesOf source) edits := by
  induction edits generalizing offset source with
  | nil => exact ⟨source, .done offset source, rfl⟩
  | cons e later ih =>
      rcases List.forall_mem_cons.mp hWhole with ⟨hHere, hLater⟩
      rcases Bool.and_eq_true_iff.mp hHere with ⟨hStart, hStop⟩
      simp only [inOrder, Bool.and_eq_true, decide_eq_true_eq]
        at hOrder
      rcases hOrder with ⟨⟨hAfter, hLonger⟩, hOrder⟩
      have hInside := le_size_of_isBoundary hStop
      rw [← length_bytes, bytes_ofText] at hInside
      rcases exists_slice hAfter hOffset hStart with
        ⟨kept, -, hKept⟩
      rcases exists_slice hLonger hStart hStop with
        ⟨old, -, hOld⟩
      rcases exists_cut hStop with ⟨-, rest, -, -, hRest⟩
      rcases ih hOrder hLater hStop hRest with
        ⟨result, hRewrites, hResult⟩
      have hSplit : source = kept ++ (old ++ rest) := by
        apply bytesOf_injective
        rw [bytesOf_append, bytesOf_append, hSource, hKept, hOld,
          hRest]
        exact Rule.drop_eq_parts _ hAfter hLonger
      have hKeptLength :
          offset + (bytesOf kept).length = e.start := by
        rw [hKept, List.length_take, List.length_drop]
        omega
      have hOldLength :
          e.start + (bytesOf old).length = e.stop := by
        rw [hOld, List.length_take, List.length_drop]
        omega
      refine ⟨kept ++ (e.replacement ++ result), ?_, ?_⟩
      · rw [hSplit]
        exact .edit kept old hKeptLength hOldLength hRewrites
      · rw [bytesOf_append, bytesOf_append, editedFrom, hResult,
          hSource, ← hKept, List.drop_drop,
          Nat.add_sub_cancel' (Nat.le_trans hAfter hLonger),
          hRest, List.append_assoc]

/- An edit that begins or ends inside a character fails. -/
theorem Rule.apply_of_not_isWhole
    {r : Rule}
    {code : String}
    (hSplit :
      ¬ ∀ e ∈ r.edits (ofText code),
        (ofText code).isWhole e = true) :
    r.apply code = .error .splitCharacter := by
  have hAll :
      (r.edits (ofText code)).all (ofText code).isWhole = false :=
    Bool.eq_false_iff.mpr (mt List.all_eq_true.mp hSplit)
  simp [apply, applyEdits, hAll, bind, Except.bind]

/- A rule that is applied rewrites the script. -/
theorem Rule.rewrites
    {r : Rule}
    {code : String}
    (hWhole :
      ∀ e ∈ r.edits (ofText code),
        (ofText code).isWhole e = true) :
    Rewrites 0 (r.edits (ofText code)) code (r.edited code) := by
  rcases rewrites_of_isWhole (r.edits_inOrder (ofText code))
      hWhole (isBoundary_zero (cuttable_ofText code))
      (List.drop_zero (l := bytesOf code)).symm with
    ⟨result, hRewrites, hResult⟩
  have hEdited : r.edited code = result := by
    rw [Rule.edited, bytes_ofText, ← hResult, textOf_bytesOf]
  rw [hEdited]
  exact hRewrites

/- The texts around an edit, in the script and in the result. -/
theorem Rewrites.exists_parts
    {offset : Nat}
    {edits : List Edit}
    {source result : String}
    {e : Edit}
    (hRewrites : Rewrites offset edits source result)
    (hMember : e ∈ edits) :
    ∃ before old behind before' behind' later,
      source = before ++ (old ++ behind) ∧
        result = before' ++ (e.replacement ++ behind') ∧
          offset + (bytesOf before).length = e.start ∧
            e.start + (bytesOf old).length = e.stop ∧
              Rewrites e.stop later behind behind' ∧
                later ⊆ edits := by
  induction hRewrites with
  | done => cases hMember
  | @edit offset first later source result kept old hKept hOld
      hRest ih =>
      rcases List.mem_cons.mp hMember with rfl | hLater
      · exact
          ⟨kept, old, source, kept, result, later, rfl, rfl, hKept,
            hOld, hRest, List.subset_cons_self _ _⟩
      · rcases ih hLater with
          ⟨before, old', behind, before', behind', more, rfl, rfl,
            hBefore, hOld', hBehind, hMore⟩
        refine
          ⟨kept ++ (old ++ before), old', behind,
            kept ++ (first.replacement ++ before'), behind', more,
            ?_, ?_, ?_, hOld', hBehind,
            fun e hIn => List.mem_cons_of_mem _ (hMore hIn)⟩
        · simp only [String.append_assoc]
        · simp only [String.append_assoc]
        · rw [bytesOf_append, bytesOf_append, List.length_append,
            List.length_append]
          omega

end Devirt

import Devirt.Proofs.Pattern.Readers
import Devirt.Proofs.Source.Edits

/-
  What the masked text shows of a script, and which edits can
  be made.

  Where everything is code, the masked text shows the ASCII
  bytes of a script and blanks for all others, so it shows the
  script just where this is ASCII.  The bytes of a character
  that is not ASCII stand side by side; between two cuts there
  are at least two of them.  The edits of a rule follow each
  other without overlap, so they can be made if they cut the
  script between characters.

  Main declarations:
    * `CodeMap.small_masked`, `CodeMap.isBoundary_of_shown`
    * `CodeMap.shownAs`, `CodeMap.masked_of_code`
    * `CodeMap.ShowsScript`, `CodeMap.showsScript_iff_isAscii`
    * `Scanner.Unbroken`, `Scanner.bytesOf_unbroken`,
      `CodeMap.exists_pair_of_high`
    * `CodeMap.showsScript_of_parts`
    * `Rule.edits_inOrder`, `Rule.apply_of_isWhole`,
      `Rule.isWhole_of_apply`
-/

------------------------------------------------------------
-- Shown Bytes
------------------------------------------------------------

namespace Devirt

open Scanner Pattern

namespace CodeMap

@[simp]
theorem length_masked
    (m : CodeMap) :
    m.masked.length = m.size := by
  simp [masked, size]

/- What is shown is ASCII, whatever the script is. -/
theorem small_masked
    (m : CodeMap) :
    Small m.masked := by
  intro c hMember
  rcases List.mem_map.mp hMember with ⟨cell, -, rfl⟩
  by_cases hByte : cell.byte < 128
  · exact (mask_ascii hByte).1
  · simp [Cell.mask, hByte]

/- A script can be cut on both sides of a shown byte. -/
theorem isBoundary_of_shown
    {code : String}
    {offset : Nat}
    {c : Char}
    (hShown : (ofText code).masked[offset]? = some c)
    (hNotBlank : c ≠ ' ') :
    (ofText code).isBoundary offset = true ∧
      (ofText code).isBoundary (offset + 1) = true := by
  rcases hasCode_of_masked hShown hNotBlank with
    ⟨hCode, hAscii⟩
  exact
    ⟨isBoundary_of_ascii hCode.byte?_eq hAscii,
      isBoundary_succ_of_ascii (cuttable_ofText code)
        hCode.byte?_eq hAscii⟩

/- The character that is shown for a byte of code. -/
def shownAs (b : UInt8) : Char :=
  if b < 128 then Char.ofNat b.toNat else ' '

/- Everything between two offsets is shown as code is. -/
theorem masked_of_code
    {m : CodeMap}
    {start stop offset : Nat}
    {b : UInt8}
    (hCode : m.isCodeBetween start stop = true)
    (hFrom : start ≤ offset)
    (hTo : offset < stop)
    (hByte : m.byte? offset = some b) :
    m.HasCode offset b ∧ m.masked[offset]? = some (shownAs b) := by
  rcases Option.map_eq_some_iff.mp hByte with
    ⟨⟨byte, isCode⟩, hCell, rfl⟩
  rw [isCodeBetween, ← Array.all_toList, Array.toList_extract,
    List.all_eq_true] at hCode
  have hFlag : isCode = true := by
    apply hCode ⟨byte, isCode⟩
    apply List.mem_of_getElem? (i := offset - start)
    rw [List.getElem?_take_of_lt (by omega), List.getElem?_drop,
      Nat.add_sub_cancel' hFrom, Array.getElem?_toList, hCell]
  subst hFlag
  refine ⟨hCell, ?_⟩
  simp [masked, Array.getElem?_toList, hCell, Cell.mask, shownAs]

/-
  Between two offsets the masked text shows the script, byte
  for byte.
-/
def ShowsScript (m : CodeMap) (start stop : Nat) : Prop :=
  (part m.masked start stop).map byte =
    (m.bytes.drop start).take (stop - start)

instance (m : CodeMap) (start stop : Nat) :
    Decidable (m.ShowsScript start stop) :=
  inferInstanceAs (Decidable (_ = _))

theorem byte_mask_eq_iff
    {c : Cell}
    (hCode : c.isCode = true) :
    byte (Cell.mask c) = c.byte ↔ c.byte < 128 := by
  constructor
  · intro hSame
    by_contra hHigh
    have hBlank : Cell.mask c = ' ' := by
      simp [Cell.mask, hHigh]
    rw [← hSame, hBlank] at hHigh
    exact hHigh (by decide)
  · intro hAscii
    simp [Cell.mask, hCode, hAscii, byte_ofNat hAscii]

/- Code is shown as it is just where it is ASCII. -/
theorem showsScript_iff_isAscii
    {m : CodeMap}
    {start stop : Nat}
    (hCode : m.isCodeBetween start stop = true) :
    m.ShowsScript start stop ↔
      IsAscii ((m.bytes.drop start).take (stop - start)) := by
  rw [isCodeBetween, ← Array.all_toList, Array.toList_extract,
    List.all_eq_true] at hCode
  unfold ShowsScript IsAscii part masked CodeMap.bytes
  rw [← List.map_drop, ← List.map_take, ← List.map_drop,
    ← List.map_take, List.map_map, List.map_inj_left,
    List.forall_mem_map]
  apply forall₂_congr
  intro c hMember
  exact byte_mask_eq_iff (hCode c hMember)

end CodeMap

end Devirt

------------------------------------------------------------
-- Bytes of Characters
------------------------------------------------------------

namespace Devirt

namespace Scanner

open CodeMap

/- The first byte of several is followed by a continuation. -/
def MayPrecede (before after : UInt8) : Prop :=
  192 ≤ before → isContinuation after = true

/-
  Bytes that do not end with the first one of several and have
  a continuation after each of these.
-/
structure Unbroken (bytes : List UInt8) : Prop where
  last : ∀ b ∈ bytes.getLast?, b < 192
  chain : List.IsChain MayPrecede bytes

theorem lt_of_isContinuation
    {b : UInt8}
    (hContinues : isContinuation b = true) :
    b < 192 := by
  simp only [isContinuation, Bool.and_eq_true,
    decide_eq_true_eq] at hContinues
  exact hContinues.2

/- A character has one byte, or a first one and continuations. -/
theorem utf8EncodeChar_continued
    (c : Char) :
    (∃ b, String.utf8EncodeChar c = [b] ∧ b < 192) ∨
      ∃ first second rest,
        String.utf8EncodeChar c = first :: second :: rest ∧
          ∀ b ∈ second :: rest, isContinuation b = true := by
  unfold String.utf8EncodeChar
  generalize c.val.toNat = value
  dsimp only
  split
  · refine Or.inl ⟨_, rfl, ?_⟩
    simp [UInt8.lt_iff_toNat_lt]
    omega
  · refine Or.inr ?_
    split
    · refine ⟨_, _, _, rfl, ?_⟩
      simp [isContinuation, UInt8.le_iff_toNat_le,
        UInt8.lt_iff_toNat_lt]
      omega
    · split <;> refine ⟨_, _, _, rfl, ?_⟩ <;>
        simp [isContinuation, UInt8.le_iff_toNat_le,
          UInt8.lt_iff_toNat_lt] <;>
        omega

theorem isChain_of_continuations
    {bytes : List UInt8}
    (first : UInt8)
    (hContinue : ∀ b ∈ bytes, isContinuation b = true) :
    List.IsChain MayPrecede (first :: bytes) := by
  induction bytes generalizing first with
  | nil => exact List.IsChain.singleton first
  | cons b rest ih =>
      rcases List.forall_mem_cons.mp hContinue with
        ⟨hHere, hRest⟩
      exact List.IsChain.cons_cons (fun _ => hHere) (ih b hRest)

theorem utf8EncodeChar_unbroken
    (c : Char) :
    Unbroken (String.utf8EncodeChar c) := by
  rcases utf8EncodeChar_continued c with
    ⟨b, hBytes, hLow⟩ | ⟨first, second, rest, hBytes, hRest⟩
  · rw [hBytes]
    exact ⟨by simpa using hLow, List.IsChain.singleton b⟩
  · rw [hBytes]
    refine ⟨?_, isChain_of_continuations first hRest⟩
    intro b hLast
    rw [List.getLast?_cons_cons] at hLast
    exact
      lt_of_isContinuation
        (hRest b (List.mem_of_getLast? hLast))

theorem Unbroken.append
    {left right : List UInt8}
    (hLeft : Unbroken left)
    (hRight : Unbroken right) :
    Unbroken (left ++ right) := by
  refine ⟨?_, ?_⟩
  · intro b hLast
    rw [List.getLast?_append] at hLast
    cases hEnd : right.getLast? with
    | none =>
        rw [hEnd] at hLast
        exact hLeft.last b hLast
    | some other =>
        rw [hEnd] at hLast
        exact hRight.last b (hEnd.trans hLast)
  · refine List.isChain_append.mpr
      ⟨hLeft.chain, hRight.chain, ?_⟩
    intro before hBefore after _ hHigh
    exact
      absurd (hLeft.last before hBefore)
        (UInt8.not_lt.mpr hHigh)

/- The bytes of a text make whole characters. -/
theorem bytesOf_unbroken
    (s : String) :
    Unbroken (bytesOf s) := by
  rw [bytesOf_eq_flatMap]
  induction s.toList with
  | nil => exact ⟨by simp, List.IsChain.nil⟩
  | cons c rest ih =>
      rw [List.flatMap_cons]
      exact (utf8EncodeChar_unbroken c).append ih

end Scanner

namespace CodeMap

open Scanner Pattern

/- No character of several bytes begins right before a cut. -/
theorem lt_of_isBoundary_succ
    {code : String}
    {offset : Nat}
    {b : UInt8}
    (hByte : (ofText code).byte? offset = some b)
    (hCut : (ofText code).isBoundary (offset + 1) = true) :
    b < 192 := by
  have hWhole := bytesOf_unbroken code
  rw [byte?_eq_getElem?, bytes_ofText] at hByte
  rcases List.getElem?_eq_some_iff.mp hByte with ⟨hInside, rfl⟩
  rcases Nat.lt_or_ge (offset + 1) (bytesOf code).length with
    hMore | hEnd
  · by_contra hHigh
    have hNext :=
      List.isChain_iff_getElem.mp hWhole.chain offset hMore
        (UInt8.not_lt.mp hHigh)
    simp [isBoundary, byte?_eq_getElem?, bytes_ofText, hMore,
      hNext] at hCut
  · apply hWhole.last
    rw [List.getLast?_eq_getElem?]
    have hLast : (bytesOf code).length - 1 = offset := by omega
    rw [hLast]
    exact hByte

/-
  Between two cuts, a byte that is not ASCII has another one
  next to it.
-/
theorem exists_pair_of_high
    {code : String}
    {start stop offset : Nat}
    {b : UInt8}
    (hStart : (ofText code).isBoundary start = true)
    (hStop : (ofText code).isBoundary stop = true)
    (hFrom : start ≤ offset)
    (hTo : offset < stop)
    (hByte : (ofText code).byte? offset = some b)
    (hHigh : ¬ b < 128) :
    ∃ first second left right,
      start ≤ first ∧ second = first + 1 ∧ second < stop ∧
        (ofText code).byte? first = some left ∧
          (ofText code).byte? second = some right ∧
            ¬ left < 128 ∧ ¬ right < 128 := by
  have hInside := le_size_of_isBoundary hStop
  by_cases hContinues : isContinuation b = true
  -- the byte before it belongs to the same character
  · have hNotCut :
        (ofText code).isBoundary offset = false := by
      simp [isBoundary, hByte, hContinues]
    have hLater : start ≠ offset := by
      rintro rfl
      rw [hStart] at hNotCut
      cases hNotCut
    have hBefore : offset - 1 < (ofText code).size := by omega
    rcases exists_byte? hBefore with ⟨left, hLeft⟩
    refine
      ⟨offset - 1, offset, left, b, by omega, by omega, hTo,
        hLeft, hByte, ?_, hHigh⟩
    intro hAscii
    have hCut :=
      isBoundary_succ_of_ascii (cuttable_ofText code) hLeft hAscii
    rw [show offset - 1 + 1 = offset by omega, hNotCut] at hCut
    cases hCut
  -- the byte behind it does
  · have hFirst : 192 ≤ b := by
      simp only [isContinuation, Bool.and_eq_true,
        decide_eq_true_eq, not_and] at hContinues
      exact UInt8.not_lt.mp (hContinues (UInt8.not_lt.mp hHigh))
    have hNotCut :
        (ofText code).isBoundary (offset + 1) ≠ true := by
      intro hCut
      exact
        absurd (lt_of_isBoundary_succ hByte hCut)
          (UInt8.not_lt.mpr hFirst)
    have hEarlier : offset + 1 ≠ stop := by
      rintro rfl
      exact hNotCut hStop
    have hBehind : offset + 1 < (ofText code).size := by omega
    rcases exists_byte? hBehind with ⟨right, hRight⟩
    refine
      ⟨offset, offset + 1, b, right, hFrom, rfl, by omega, hByte,
        hRight, hHigh, ?_⟩
    intro hAscii
    exact hNotCut (isBoundary_of_ascii hRight hAscii)

/-
  An edit whose match can show a blank at its two ends alone
  shows the script, since no character of several bytes has
  room there.
-/
theorem showsScript_of_parts
    {code : String}
    {e : Edit}
    {lead middle tail : List Char}
    (hWhole : (ofText code).isWhole e = true)
    (hCode : (ofText code).isCodeBetween e.start e.stop = true)
    (hPart :
      part (ofText code).masked e.start e.stop =
        lead ++ (middle ++ tail))
    (hLead : lead.length ≤ 1)
    (hTail : tail.length ≤ 1)
    (hMiddle : middle ≠ [])
    (hNotBlank : ' ' ∉ middle) :
    (ofText code).ShowsScript e.start e.stop := by
  rw [showsScript_iff_isAscii hCode]
  intro b hMember
  by_contra hHigh
  rcases Bool.and_eq_true_iff.mp hWhole with ⟨hStart, hStop⟩
  rcases List.mem_iff_getElem?.mp hMember with ⟨i, hByte⟩
  rw [List.getElem?_take, List.getElem?_drop] at hByte
  split_ifs at hByte with hShort
  rw [← byte?_eq_getElem?] at hByte
  rcases exists_pair_of_high hStart hStop (by omega) (by omega)
      hByte hHigh with
    ⟨first, second, left, right, hFrom, rfl, hTo, hFirst, hSecond,
      hLeft, hRight⟩
  -- both bytes of the pair are shown as blanks
  have hShown :
      ∀ k, first ≤ e.start + k → e.start + k ≤ first + 1 →
        (lead ++ (middle ++ tail))[k]? = some ' ' := by
    intro k hLower hUpper
    rw [← hPart, part, List.getElem?_take_of_lt (by omega),
      List.getElem?_drop]
    have hPair :
        e.start + k = first ∨ e.start + k = first + 1 := by
      omega
    rcases hPair with hHere | hHere
    · rw [hHere, (masked_of_code hCode hFrom (by omega)
        hFirst).2, shownAs, if_neg hLeft]
    · rw [hHere, (masked_of_code hCode (by omega) hTo
        hSecond).2, shownAs, if_neg hRight]
  -- one of them lies in the middle, which shows no blank
  have hOutside :
      ∀ k, (lead ++ (middle ++ tail))[k]? = some ' ' →
        k < lead.length ∨
          (k = lead.length + middle.length ∧
            k < lead.length + middle.length + tail.length) := by
    intro k hBlank
    have hInside := (List.getElem?_eq_some_iff.mp hBlank).1
    simp only [List.length_append] at hInside
    by_contra hNone
    have hFirstPart : lead.length ≤ k := by omega
    have hSecondPart : k - lead.length < middle.length := by
      omega
    rw [List.getElem?_append_right hFirstPart,
      List.getElem?_append_left hSecondPart] at hBlank
    exact hNotBlank (List.mem_of_getElem? hBlank)
  have hRoom := List.length_pos_of_ne_nil hMiddle
  have hFirstBlank :=
    hOutside (first - e.start)
      (hShown _ (by omega) (by omega))
  have hSecondBlank :=
    hOutside (first + 1 - e.start)
      (hShown _ (by omega) (by omega))
  omega

end CodeMap

end Devirt

------------------------------------------------------------
-- Edits that Can Be Made
------------------------------------------------------------

namespace Devirt

open Scanner Pattern CodeMap

namespace Rule

theorem inOrder_of_lined
    (r : Rule)
    (m : CodeMap)
    {offset : Nat}
    {found : List Match}
    (hLined : Lined r.pattern m.masked offset found) :
    inOrder offset (found.filterMap (r.edit? m)) = true := by
  induction found generalizing offset with
  | nil => rfl
  | cons first later ih =>
      cases hLined with
      | cons hAfter hLocated hLater =>
          have hOrder := hLocated.start_le_stop
          cases hEdit : r.edit? m first with
          | none =>
              rw [List.filterMap_cons_none hEdit]
              exact
                ih (hLater.weaken (Nat.le_trans hAfter hOrder))
          | some edit =>
              rw [List.filterMap_cons_some hEdit]
              unfold edit? at hEdit
              split_ifs at hEdit
              rcases Option.map_eq_some_iff.mp hEdit with
                ⟨replacement, -, rfl⟩
              simp [inOrder, hAfter, hOrder, ih hLater]

/- The edits of a rule follow each other. -/
theorem edits_inOrder
    (r : Rule)
    (m : CodeMap) :
    inOrder 0 (r.edits m) = true :=
  r.inOrder_of_lined m (all_lined _ _)

/- Edits that cut a script between characters are made. -/
theorem apply_of_isWhole
    {r : Rule}
    {code : String}
    (hWhole :
      ∀ e ∈ r.edits (ofText code),
        (ofText code).isWhole e = true) :
    r.apply code =
      .ok (r.edited code, (r.edits (ofText code)).length) := by
  have hOrder := r.edits_inOrder (ofText code)
  have hAll := List.all_eq_true.mpr hWhole
  simp [apply, edited, applyEdits, hOrder, hAll, bind,
    Except.bind, pure, Except.pure]

/- Edits that were made have cut between characters. -/
theorem isWhole_of_apply
    {r : Rule}
    {code : String}
    {result : String × Nat}
    (hApply : r.apply code = .ok result) :
    ∀ e ∈ r.edits (ofText code),
      (ofText code).isWhole e = true := by
  have hMade :
      ((ofText code).applyEdits
        (r.edits (ofText code))).isOk = true := by
    cases hEdited :
        (ofText code).applyEdits (r.edits (ofText code)) with
    | error fault =>
        simp [apply, hEdited, bind, Except.bind] at hApply
    | ok text => rfl
  unfold applyEdits at hMade
  split_ifs at hMade with hCut
  · exact List.all_eq_true.mp (Bool.and_eq_true_iff.mp hCut).2
  · cases hMade

end Rule

end Devirt

import Devirt.Proofs.Restoration.Faultless
import Devirt.Proofs.Source.Cutting
import Devirt.Proofs.Source.Edits
import Devirt.Proofs.Source.Keywords

/-
  Programs that are unwrapped.

  The body of a program is what the first brace of its code
  encloses.  Of what stands before that brace it is only asked
  whether a pair of round brackets ends it or occurs in it; of
  what stands behind the body, that it is the call without
  arguments.  So an expression before the function, a value for
  a parameter or an assignment goes with the wrapper.

  Main declarations:
    * `Wrapper.Unwraps`, `Wrapper.unwrap?_parts`
    * `Wrapper.unwrap?_program`
    * `unwrap?_bodies`
    * `precedingCall_dropped`
-/

------------------------------------------------------------
-- Endings and Occurrences
------------------------------------------------------------

namespace Devirt

namespace Text

variable {α : Type}
variable [BEq α] [LawfulBEq α]

theorem endsWith_iff
    (tail cs : List α) :
    endsWith tail cs = true ↔ tail <:+ cs := by
  rw [endsWith, startsWith_iff, List.reverse_prefix]

theorem occursIn_iff
    (part cs : List α) :
    occursIn part cs = true ↔ part <:+: cs := by
  induction cs with
  | nil => rw [occursIn, startsWith_iff]; simp
  | cons c cs ih =>
      rw [occursIn, Bool.or_eq_true, startsWith_iff, ih,
        List.infix_cons_iff]

end Text

end Devirt

------------------------------------------------------------
-- Extents of Calls
------------------------------------------------------------

namespace Devirt

open Scanner CodeMap

namespace Wrapper

/-
  The braces of a call are the first brace of code and what
  closes it.  If it begins with a round bracket, this closes
  behind the body.
-/
structure Braces
    (m : CodeMap)
    (w : Wrapper) : Prop where
  opens : m.nextCode w.start (byte '{') = some w.bodyOpen
  closes : m.matchingClose w.bodyOpen = .ok (some w.bodyClose)
  outer :
    m.byte? w.start = some (byte '(') →
      ∃ close,
        m.matchingClose w.start = .ok (some close) ∧
          w.bodyClose ≤ close ∧ close < w.stop

theorem functionEnd?_outer
    {m : CodeMap}
    {start bodyClose stop : Nat}
    {isBracketed : Bool}
    (hEnd :
      functionEnd? matchingClose m start bodyClose =
        .ok (some (stop, isBracketed)))
    (hRound : m.byte? start = some (byte '(')) :
    ∃ close,
      m.matchingClose start = .ok (some close) ∧
        bodyClose ≤ close ∧ close + 1 = stop := by
  rcases ok_of_bind_ok hEnd with ⟨b, hByte, hEnd⟩
  have hSame : b = byte '(' := by
    simp only [byteAt, hRound] at hByte
    cases hByte
    rfl
  rw [hSame] at hEnd
  rw [if_pos (by decide)] at hEnd
  rcases ok_of_bind_ok hEnd with ⟨found, hClose, hEnd⟩
  cases found with
  | none => cases hEnd
  | some close =>
      dsimp only at hEnd
      split_ifs at hEnd with hEarly
      · cases hEnd
      · cases hEnd
        exact ⟨close, hClose, Nat.le_of_not_lt hEarly, rfl⟩

/- A closing bracket is looked for behind an offset. -/
theorem le_of_closeFrom
    {k : Bracket}
    {offset depth close : Nat}
    {cells : List Cell}
    (hClose :
      closeFrom k offset depth cells = .ok (some close)) :
    offset ≤ close := by
  fun_induction closeFrom k offset depth cells with
  | case1 => cases hClose
  | case2 offset depth c rest hOpening ih =>
      exact Nat.le_of_succ_le (ih hClose)
  | case3 => cases hClose
  | case4 =>
      cases hClose
      exact Nat.le_refl _
  | case5 offset c rest hOpening d hClosing ih =>
      exact Nat.le_of_succ_le (ih hClose)
  | case6 offset depth c rest hOpening hClosing ih =>
      exact Nat.le_of_succ_le (ih hClose)

theorem le_of_matchingClose
    {m : CodeMap}
    {start close : Nat}
    (hClose : m.matchingClose start = .ok (some close)) :
    start ≤ close := by
  unfold matchingClose at hClose
  split at hClose
  · cases hClose
  · split at hClose
    · cases hClose
    · exact le_of_closeFrom hClose

/- A call does not end before the function does. -/
theorem callEnd?_le
    {m : CodeMap}
    {bodyClose stop last : Nat}
    {isBracketed : Bool}
    (hCall :
      callEnd? matchingClose m bodyClose stop isBracketed =
        .ok (some last)) :
    stop ≤ last := by
  unfold callEnd? at hCall
  dsimp only at hCall
  split_ifs at hCall with hRound hBracketed
  · rcases ok_of_bind_ok hCall with ⟨_ | close, hClose, hCall⟩
    · cases hCall
    · cases hCall
      have hSkip := le_skipSpace m stop
      have hBehind := le_of_matchingClose hClose
      exact Nat.le_trans hSkip (Nat.le_succ_of_le hBehind)
  · rcases ok_of_bind_ok hCall with ⟨tail, -, hCall⟩
    split_ifs at hCall
    · cases hCall
      exact Nat.le_refl _
    · cases hCall
  · cases hCall

theorem le_afterSemicolon
    (m : CodeMap)
    (stop : Nat) :
    stop ≤ afterSemicolon m stop := by
  have hSkip := le_skipSpace m stop
  unfold afterSemicolon
  dsimp only
  split_ifs <;> omega

/- How far a call extends is found in three steps. -/
structure Extent
    (m : CodeMap)
    (w : Wrapper)
    (stop last : Nat)
    (isBracketed : Bool) : Prop where
  opens : m.nextCode w.start (byte '{') = some w.bodyOpen
  closes : m.matchingClose w.bodyOpen = .ok (some w.bodyClose)
  function :
    functionEnd? matchingClose m w.start w.bodyClose =
      .ok (some (stop, isBracketed))
  call :
    callEnd? matchingClose m w.bodyClose stop isBracketed =
      .ok (some last)
  stop_eq : w.stop = afterSemicolon m last

theorem at?_extent
    {m : CodeMap}
    {start : Nat}
    {w : Wrapper}
    (hCall : at? matchingClose m start = .ok (some w)) :
    w.start = start ∧
      ∃ stop last isBracketed, Extent m w stop last isBracketed := by
  unfold at? at hCall
  cases hOpen : m.nextCode start (byte '{') with
  | none =>
      rw [hOpen] at hCall
      cases hCall
  | some bodyOpen =>
      rw [hOpen] at hCall
      rcases ok_of_bind_ok hCall with
        ⟨_ | bodyClose, hClose, hCall⟩
      · cases hCall
      · rcases ok_of_bind_ok hCall with
          ⟨_ | ⟨stop, isBracketed⟩, hEnd, hCall⟩
        · cases hCall
        · rcases ok_of_bind_ok hCall with
            ⟨_ | last, hLast, hCall⟩
          · cases hCall
          · cases hCall
            exact
              ⟨rfl, stop, last, isBracketed, hOpen, hClose, hEnd,
                hLast, rfl⟩

theorem at?_braces
    {m : CodeMap}
    {start : Nat}
    {w : Wrapper}
    (hCall : at? matchingClose m start = .ok (some w)) :
    Braces m w := by
  rcases at?_extent hCall with
    ⟨-, stop, last, isBracketed, hExtent⟩
  refine ⟨hExtent.opens, hExtent.closes, ?_⟩
  intro hRound
  rcases functionEnd?_outer hExtent.function hRound with
    ⟨close, hOuter, hBehind, rfl⟩
  have hFirst := callEnd?_le hExtent.call
  have hSecond := le_afterSemicolon m last
  rw [← hExtent.stop_eq] at hSecond
  exact ⟨close, hOuter, hBehind, Nat.le_trans hFirst hSecond⟩

------------------------------------------------------------
-- Parts of Programs
------------------------------------------------------------

/- A text ends with a pair of brackets, or has one in it. -/
theorem hasNoParameters_iff
    (head : String) :
    hasNoParameters head = true ↔
      ['(', ')'] <:+ (Text.squeeze head).toList ∨
        ['(', ')'] <:+: head.toList := by
  have hPair : "()".toList = ['(', ')'] := by decide
  rw [hasNoParameters, Bool.or_eq_true, Text.endsWith_iff,
    Text.occursIn_iff, hPair]

/- The extent of a call has its offsets in order. -/
theorem encloses_of_at?
    {code : String}
    {w : Wrapper}
    (hCall :
      at? matchingClose (ofText code) ((ofText code).skipSpace 0) =
        .ok (some w)) :
    Encloses (ofText code) ((ofText code).skipSpace 0) w := by
  rcases (at?_settles (bytesOf_cuttable code)
      (hasCode_skipSpace (topAt_zero (bytesOf code))
        Bracket.round.opening_plain)).strict_eq_usual with
    ⟨found, hFound, -, hSame⟩
  have hSome : some w = found :=
    Except.ok.inj (hCall.symm.trans hSame)
  exact hFound w hSome.symm

/-
  The parts of a program that is unwrapped: blanks, the head of
  the function, its body in braces, its call, and blanks.
-/
structure Unwraps
    (code before head inner tail after : String)
    (w : Wrapper) : Prop where
  code_eq :
    code =
      before ++ (head ++ ("\x7b" ++ (inner ++ ("\x7d" ++
        (tail ++ after)))))
  start_eq : w.start = (bytesOf before).length
  open_eq : w.bodyOpen = w.start + (bytesOf head).length
  close_eq : w.bodyClose = w.bodyOpen + 1 + (bytesOf inner).length
  stop_eq : w.stop = w.bodyClose + 1 + (bytesOf tail).length
  before_blank : ∀ b ∈ bytesOf before, isSpace b = true
  head_first : ∀ b ∈ (bytesOf head).head?, isSpace b = false
  braces : Braces (ofText code) w
  parameters :
    ['(', ')'] <:+ (Text.squeeze head).toList ∨
      ['(', ')'] <:+: head.toList
  tail_plain : Text.squeeze tail ∈ plainTails
  after_blank : Text.isBlankText after = true

/- The body of a function, without blanks and a directive. -/
def bodyOf (inner : String) : String :=
  Text.trim
    (String.ofList (dropDirective (Text.trim inner).toList))

/- A program is unwrapped by what its call is made of. -/
theorem unwrap?_slices
    {code body : String}
    (hUnwrap : unwrap? code = .ok (some body)) :
    let m := ofText code
    ∃ w after head tail inner,
      at? matchingClose m (m.skipSpace 0) = .ok (some w) ∧
        m.slice w.stop m.size = .ok after ∧
          m.slice (m.skipSpace 0) w.bodyOpen = .ok head ∧
            m.slice (w.bodyClose + 1) w.stop = .ok tail ∧
              m.slice (w.bodyOpen + 1) w.bodyClose = .ok inner ∧
                Text.isBlankText after = true ∧
                  hasNoParameters head = true ∧
                    Text.squeeze tail ∈ plainTails ∧
                      body = bodyOf inner := by
  rcases ok_of_bind_ok hUnwrap with ⟨_ | w, hCall, hRun⟩
  · cases hRun
  · rcases ok_of_bind_ok hRun with ⟨after, hAfter, hRun⟩
    rcases ok_of_bind_ok hRun with ⟨head, hHead, hRun⟩
    rcases ok_of_bind_ok hRun with ⟨tail, hTail, hRun⟩
    rcases ok_of_bind_ok hRun with ⟨inner, hInner, hRun⟩
    refine
      ⟨w, after, head, tail, inner, hCall, hAfter, hHead, hTail,
        hInner, ?_⟩
    split_ifs at hRun with hAll
    · simp only [Bool.and_eq_true, List.contains_iff_mem] at hAll
      rcases hAll with ⟨⟨hBlank, hNone⟩, hPlain⟩
      have hBody := Option.some.inj (Except.ok.inj hRun)
      exact ⟨hBlank, hNone, hPlain, hBody.symm⟩
    · cases hRun

theorem drop_takeWhile_length
    {α : Type}
    (p : α → Bool)
    (items : List α) :
    items.drop (items.takeWhile p).length =
      items.dropWhile p := by
  have hWhole :=
    List.takeWhile_append_dropWhile (p := p) (l := items)
  have hDrop :
      (items.takeWhile p ++ items.dropWhile p).drop
          (items.takeWhile p).length =
        items.dropWhile p :=
    List.drop_left' rfl
  rwa [hWhole] at hDrop

/- A text is put together from its parts around two braces. -/
theorem code_eq_of_parts
    {code before head inner tail after : String}
    {start bodyOpen bodyClose stop : Nat}
    (hOpen : (ofText code).HasCode bodyOpen (byte '{'))
    (hClose : (ofText code).HasCode bodyClose (byte '}'))
    (hHeadOrder : start ≤ bodyOpen)
    (hInnerOrder : bodyOpen + 1 ≤ bodyClose)
    (hTailOrder : bodyClose + 1 ≤ stop)
    (hAfterOrder : stop ≤ (bytesOf code).length)
    (hBefore : bytesOf before = (bytesOf code).take start)
    (hHead :
      bytesOf head =
        ((bytesOf code).drop start).take (bodyOpen - start))
    (hInner :
      bytesOf inner =
        ((bytesOf code).drop (bodyOpen + 1)).take
          (bodyClose - (bodyOpen + 1)))
    (hTail :
      bytesOf tail =
        ((bytesOf code).drop (bodyClose + 1)).take
          (stop - (bodyClose + 1)))
    (hAfter :
      bytesOf after =
        ((bytesOf code).drop stop).take
          ((bytesOf code).length - stop)) :
    code =
      before ++ (head ++ ("\x7b" ++ (inner ++ ("\x7d" ++
        (tail ++ after))))) := by
  have hBrace :
      ∀ {offset : Nat} {b : UInt8},
        (ofText code).HasCode offset b →
          (bytesOf code).drop offset =
            b :: (bytesOf code).drop (offset + 1) := by
    intro offset b hCode
    have hByte := hCode.byte?_eq
    rw [byte?_eq_getElem?, bytes_ofText] at hByte
    rcases List.getElem?_eq_some_iff.mp hByte with
      ⟨hInside, rfl⟩
    exact List.drop_eq_getElem_cons hInside
  have hSplit :
      ∀ {left right : Nat}, left ≤ right →
        ((bytesOf code).drop left).take (right - left) ++
            (bytesOf code).drop right =
          (bytesOf code).drop left := by
    intro left right hOrder
    have hParts :=
      List.take_append_drop (right - left)
        ((bytesOf code).drop left)
    rwa [List.drop_drop, Nat.add_sub_cancel' hOrder] at hParts
  have hLeft : bytesOf "\x7b" = [byte '{'] := by decide +kernel
  have hRight : bytesOf "\x7d" = [byte '}'] := by decide +kernel
  have hEnd := hSplit hAfterOrder
  rw [List.drop_length, List.append_nil] at hEnd
  apply bytesOf_injective
  simp only [bytesOf_append, hLeft, hRight, List.cons_append,
    List.nil_append]
  rw [hBefore, hHead, hInner, hTail, hAfter, hEnd,
    hSplit hTailOrder, ← hBrace hClose, hSplit hInnerOrder,
    ← hBrace hOpen, hSplit hHeadOrder, List.take_append_drop]

/- What is unwrapped has all these parts. -/
theorem unwrap?_parts
    {code body : String}
    (hUnwrap : unwrap? code = .ok (some body)) :
    ∃ before head inner tail after w,
      Unwraps code before head inner tail after w ∧
        body = bodyOf inner := by
  rcases unwrap?_slices hUnwrap with
    ⟨w, after, head, tail, inner, hCall, hAfter, hHead, hTail,
      hInner, hBlank, hNone, hPlain, rfl⟩
  have hCut := cuttable_ofText code
  have hStart :=
    isBoundary_skipSpace hCut (isBoundary_zero hCut)
  have hEncloses := encloses_of_at? hCall
  rcases exists_cut hStart with ⟨before, _, -, hBefore, -⟩
  rcases bytesOf_slice hHead with ⟨hHeadOrder, hHead⟩
  rcases bytesOf_slice hInner with ⟨hInnerOrder, hInner⟩
  rcases bytesOf_slice hTail with ⟨hTailOrder, hTail⟩
  rcases bytesOf_slice hAfter with ⟨hAfterOrder, hAfter⟩
  have hSize : (ofText code).size = (bytesOf code).length := by
    rw [← length_bytes, bytes_ofText]
  rw [hSize] at hAfter hAfterOrder
  have hSpace : (ofText code).skipSpace 0 =
      ((bytesOf code).takeWhile isSpace).length := by
    rw [skipSpace, bytes_ofText, List.drop_zero, Nat.zero_add]
  have hBraces := at?_braces hCall
  have hStartEq := hEncloses.start_eq
  rw [hSpace] at hBefore hHead hHeadOrder hStartEq
  refine
    ⟨before, head, inner, tail, after, w,
      { code_eq := ?_
        start_eq := ?_
        open_eq := ?_
        close_eq := ?_
        stop_eq := ?_
        before_blank := ?_
        head_first := ?_
        braces := hBraces
        parameters := (hasNoParameters_iff head).mp hNone
        tail_plain := hPlain
        after_blank := hBlank }, rfl⟩
  · exact
      code_eq_of_parts hEncloses.open_code hEncloses.close_code
        hHeadOrder hInnerOrder hTailOrder hAfterOrder hBefore
        hHead hInner hTail hAfter
  · rw [hBefore, List.length_take]
    omega
  · rw [hHead, List.length_take, List.length_drop]
    omega
  · rw [hInner, List.length_take, List.length_drop]
    omega
  · rw [hTail, List.length_take, List.length_drop]
    omega
  · intro b hMember
    rw [hBefore, ← List.prefix_iff_eq_take.mp
      (List.takeWhile_prefix isSpace)] at hMember
    exact List.all_eq_true.mp List.all_takeWhile b hMember
  · intro b hFirst
    rw [hHead, List.head?_take] at hFirst
    split_ifs at hFirst with hNone
    · cases hFirst
    · rw [drop_takeWhile_length] at hFirst
      have hNot := List.head?_dropWhile_not isSpace (bytesOf code)
      rw [Option.mem_def.mp hFirst] at hNot
      simpa using hNot

end Wrapper

end Devirt

------------------------------------------------------------
-- Programs of Plain Code
------------------------------------------------------------

namespace Devirt

open Scanner CodeMap

/- Characters that can begin no literal are all code. -/
theorem CodeMap.cells_of_harmless
    {cs : List Char}
    (hHarmless : IsHarmless cs) :
    (ofText (String.ofList cs)).cells.toList =
      codeCells (cs.map byte) := by
  have hInert : ∀ b ∈ cs.map byte, IsInert b := by
    intro b hMember
    rcases List.mem_map.mp hMember with ⟨c, hChar, rfl⟩
    rcases hHarmless c hChar with ⟨hAscii, hMarks⟩
    exact inert_of_char hAscii hMarks
  rcases scan_inert State.initial [] [] rfl hInert with
    ⟨next, -, hScan⟩
  rw [List.append_nil] at hScan
  rw [ofText, cells_ofBytes,
    bytesOf_ofList fun c hMember => (hHarmless c hMember).1, hScan]
  exact List.append_nil _

/- A byte that is first at some offset is found there. -/
theorem CodeMap.findCode_codeCells
    {needle : UInt8}
    {skipped : List UInt8}
    (offset : Nat)
    (rest : List UInt8)
    (hNone : needle ∉ skipped) :
    findCode needle offset
        (codeCells (skipped ++ needle :: rest)) =
      some (offset + skipped.length) := by
  induction skipped generalizing offset with
  | nil => simp [findCode]
  | cons b skipped ih =>
      rw [List.mem_cons, not_or] at hNone
      rcases hNone with ⟨hOther, hLater⟩
      rw [List.cons_append, codeCells_cons, findCode, if_neg,
        ih (offset + 1) hLater, List.length_cons]
      · congr 1
        omega
      · simpa using Ne.symm hOther

/- Counting passes over all bytes but the two brackets. -/
theorem CodeMap.closeFrom_codeCells
    {k : Bracket}
    {skipped : List UInt8}
    (offset depth : Nat)
    (cells : List Cell)
    (hOpening : k.opening ∉ skipped)
    (hClosing : k.closing ∉ skipped) :
    closeFrom k offset depth (codeCells skipped ++ cells) =
      closeFrom k (offset + skipped.length) depth cells := by
  induction skipped generalizing offset with
  | nil => rfl
  | cons b skipped ih =>
      rw [List.mem_cons, not_or] at hOpening hClosing
      rcases hOpening with ⟨hNotOpening, hOpening⟩
      rcases hClosing with ⟨hNotClosing, hClosing⟩
      have hStep :
          closeFrom k offset depth
              (⟨b, true⟩ :: (codeCells skipped ++ cells)) =
            closeFrom k (offset + 1) depth
              (codeCells skipped ++ cells) := by
        conv_lhs => unfold closeFrom
        rw [if_neg (by simpa using Ne.symm hNotOpening),
          if_neg (by simpa using Ne.symm hNotClosing)]
      rw [codeCells_cons, List.cons_append, hStep,
        ih (offset + 1) hOpening hClosing, List.length_cons]
      congr 1
      omega

/- A bracket is closed by the next one of its kind. -/
theorem CodeMap.matchingClose_codeCells
    {m : CodeMap}
    {k : Bracket}
    {start : Nat}
    {skipped rest : List UInt8}
    (hCells :
      m.cells.toList.drop start =
        codeCells (k.opening :: (skipped ++ k.closing :: rest)))
    (hOpening : k.opening ∉ skipped)
    (hClosing : k.closing ∉ skipped) :
    m.matchingClose start =
      .ok (some (start + 1 + skipped.length)) := by
  have hByte : m.byte? start = some k.opening := by
    have hFirst := congrArg List.head? hCells
    rw [List.head?_drop, Array.getElem?_toList] at hFirst
    simp [byte?, hFirst]
  have hKinds : k.closing ≠ k.opening := by cases k <;> decide
  unfold matchingClose
  rw [hByte]
  dsimp only
  rw [Bracket.ofOpening?_opening, hCells, codeCells_cons,
    codeCells_append]
  dsimp only
  rw [closeFrom, if_pos (by simp),
    closeFrom_codeCells _ _ _ hOpening hClosing, codeCells_cons,
    closeFrom, if_neg (by simpa using hKinds), if_pos (by simp)]

/- Where no blank comes next, none is passed. -/
theorem CodeMap.skipSpace_eq
    {m : CodeMap}
    {start : Nat}
    (hNext : ∀ b ∈ m.byte? start, isSpace b = false) :
    m.skipSpace start = start := by
  have hNone : (m.bytes.drop start).takeWhile isSpace = [] := by
    rw [byte?_eq_getElem?, ← List.head?_drop] at hNext
    cases hRest : m.bytes.drop start with
    | nil => rfl
    | cons b rest =>
        rw [hRest] at hNext
        simp [hNext b rfl]
  rw [skipSpace, hNone]
  rfl

/- A part of an ASCII text. -/
theorem CodeMap.slice_ofList
    {cs : List Char}
    {left right : Nat}
    (hAscii : ∀ c ∈ cs, c.toNat < 128)
    (hOrder : left ≤ right)
    (hInside : right ≤ cs.length) :
    (ofText (String.ofList cs)).slice left right =
      .ok (String.ofList ((cs.drop left).take (right - left))) := by
  have hBytes := bytesOf_ofList hAscii
  have hSmall : IsAscii (bytesOf (String.ofList cs)) := by
    rw [hBytes]
    intro b hMember
    rcases List.mem_map.mp hMember with ⟨c, hChar, rfl⟩
    exact byte_ascii (hAscii c hChar)
  have hSize : (ofText (String.ofList cs)).size = cs.length := by
    rw [← length_bytes, bytes_ofText, hBytes, List.length_map]
  have hPart :
      ∀ c ∈ (cs.drop left).take (right - left), c.toNat < 128 :=
    fun c hMember =>
      hAscii c (List.mem_of_mem_drop (List.mem_of_mem_take hMember))
  have hCut :
      ∀ offset ≤ cs.length,
        (ofText (String.ofList cs)).isBoundary offset = true :=
    fun offset hOffset =>
      isBoundary_of_isAscii hSmall (hOffset.trans_eq hSize.symm)
  rw [slice_eq hOrder (hCut left (hOrder.trans hInside))
      (hCut right hInside), bytes_ofText, hBytes,
    ← List.map_drop, ← List.map_take, ← bytesOf_ofList hPart,
    textOf_bytesOf]

namespace Wrapper

/- A text of plain code without braces. -/
structure IsBraceless (cs : List Char) : Prop where
  harmless : IsHarmless cs
  no_open : '{' ∉ cs
  no_close : '}' ∉ cs

/- A head, a body in braces and a call without arguments. -/
def program (head inner : List Char) : List Char :=
  head ++ '{' :: (inner ++ ['}', '(', ')'])

section Program

variable {head inner : List Char}

theorem program_harmless
    (hHead : IsBraceless head)
    (hInner : IsBraceless inner) :
    IsHarmless (program head inner) := by
  have hMarks : IsHarmless ['{', '}', '(', ')'] := by decide
  intro c hMember
  simp only [program, List.mem_append, List.mem_cons] at hMember
  rcases hMember with hHere | rfl | hHere | hTail
  · exact hHead.harmless c hHere
  · exact hMarks '{' (by simp)
  · exact hInner.harmless c hHere
  · exact hMarks c (by simpa using Or.inr hTail)

/- The bytes of a program, and the cells, which are all code. -/
theorem bytes_program :
    (program head inner).map byte =
      head.map byte ++ byte '{' ::
        (inner.map byte ++ [byte '}', byte '(', byte ')']) := by
  simp [program]

theorem cells_program
    (hHead : IsBraceless head)
    (hInner : IsBraceless inner) :
    (ofText (String.ofList (program head inner))).cells.toList =
      codeCells (head.map byte) ++
        codeCells
          (byte '{' ::
            (inner.map byte ++ byte '}' :: [byte '(', byte ')'])) := by
  rw [cells_of_harmless (program_harmless hHead hInner),
    bytes_program, codeCells_append]

theorem not_mem_bytes
    {cs : List Char}
    {c : Char}
    (hHarmless : IsHarmless cs)
    (hAscii : c.toNat < 128)
    (hNone : c ∉ cs) :
    byte c ∉ cs.map byte := by
  intro hMember
  rcases List.mem_map.mp hMember with ⟨d, hChar, hSame⟩
  exact
    hNone
      (byte_injective (hHarmless d hChar).1 hAscii hSame ▸ hChar)

/- A program does not begin with a round bracket if its head does not. -/
theorem byteAt_program
    {m : CodeMap}
    (hBytes : m.bytes = (program head inner).map byte)
    (hHarmless : IsHarmless head)
    (hFirst : head.head? ≠ some '(') :
    ∃ b, m.byteAt 0 = .ok b ∧ b ≠ byte '(' := by
  have hByte :
      m.byte? 0 = some (byte (head.head?.getD '{')) := by
    rw [byte?_eq_getElem?, hBytes]
    cases head <;> rfl
  refine ⟨_, by rw [byteAt, hByte], ?_⟩
  intro hSame
  cases head with
  | nil => exact absurd hSame (by decide)
  | cons c cs =>
      exact
        hFirst
          (congrArg some
            (byte_injective (hHarmless c List.mem_cons_self).1
              (by decide) hSame))

/- The brackets behind the body are a call. -/
theorem callEnd?_program
    {m : CodeMap}
    {bodyClose : Nat}
    (hTail :
      m.cells.toList.drop (bodyClose + 1) =
        codeCells (byte '(' :: ([] ++ byte ')' :: []))) :
    callEnd? matchingClose m bodyClose (bodyClose + 1) false =
        .ok (some (bodyClose + 3)) ∧
      afterSemicolon m (bodyClose + 3) = bodyClose + 3 := by
  have hDrop :
      m.bytes.drop (bodyClose + 1) = [byte '(', byte ')'] := by
    rw [CodeMap.bytes, ← List.map_drop, hTail]
    rfl
  have hByte :
      ∀ i,
        m.byte? (bodyClose + 1 + i) =
          [byte '(', byte ')'][i]? := by
    intro i
    rw [byte?_eq_getElem?, ← List.getElem?_drop, hDrop]
  have hRound : m.byte? (bodyClose + 1) = some (byte '(') :=
    hByte 0
  have hEnd : m.byte? (bodyClose + 3) = none := hByte 2
  have hSkip : m.skipSpace (bodyClose + 1) = bodyClose + 1 := by
    apply skipSpace_eq
    intro b hNext
    rw [hRound] at hNext
    cases hNext
    decide
  have hSkipEnd : m.skipSpace (bodyClose + 3) = bodyClose + 3 := by
    apply skipSpace_eq
    intro b hNext
    rw [hEnd] at hNext
    cases hNext
  have hClose :
      m.matchingClose (bodyClose + 1) =
        .ok (some (bodyClose + 1 + 1)) :=
    matchingClose_codeCells (k := .round) hTail
      (List.not_mem_nil) (List.not_mem_nil)
  constructor
  · unfold callEnd?
    dsimp only
    rw [hSkip, hRound, if_pos (beq_self_eq_true _), hClose]
    rfl
  · unfold afterSemicolon
    dsimp only
    rw [hSkipEnd, hEnd]
    rfl

/- The braces of a program. -/
theorem braces_program
    {m : CodeMap}
    (hHead : IsBraceless head)
    (hInner : IsBraceless inner)
    (hCells :
      m.cells.toList =
        codeCells (head.map byte) ++
          codeCells
            (byte '{' ::
              (inner.map byte ++ byte '}' ::
                [byte '(', byte ')']))) :
    m.nextCode 0 (byte '{') = some head.length ∧
      m.matchingClose head.length =
        .ok (some (head.length + 1 + inner.length)) := by
  constructor
  · rw [nextCode, List.drop_zero, hCells, ← codeCells_append,
      findCode_codeCells 0 _
        (not_mem_bytes hHead.harmless (by decide) hHead.no_open),
      List.length_map, Nat.zero_add]
  · have hDrop :
        m.cells.toList.drop head.length =
          codeCells
            (byte '{' ::
              (inner.map byte ++ byte '}' ::
                [byte '(', byte ')'])) := by
      rw [hCells]
      exact List.drop_left' (by simp [codeCells])
    have hBraces :=
      matchingClose_codeCells (k := .curly) hDrop
        (not_mem_bytes hInner.harmless (by decide)
          hInner.no_open)
        (not_mem_bytes hInner.harmless (by decide)
          hInner.no_close)
    rw [List.length_map] at hBraces
    exact hBraces

/- The extent of a program. -/
theorem at?_program
    (hHead : IsBraceless head)
    (hInner : IsBraceless inner)
    (hFirst : head.head? ≠ some '(') :
    at? matchingClose
        (ofText (String.ofList (program head inner))) 0 =
      .ok
        (some
          ⟨0, head.length + inner.length + 4, head.length,
            head.length + 1 + inner.length⟩) := by
  have hCells := cells_program hHead hInner
  generalize ofText (String.ofList (program head inner)) = m
    at hCells
  have hBytes : m.bytes = (program head inner).map byte := by
    rw [CodeMap.bytes, hCells, ← codeCells_append,
      codeCells_bytes, bytes_program]
  have hTail :
      m.cells.toList.drop (head.length + 1 + inner.length + 1) =
        codeCells (byte '(' :: ([] ++ byte ')' :: [])) := by
    have hSplit :
        m.cells.toList =
          codeCells
              (head.map byte ++ (byte '{' ::
                (inner.map byte ++ [byte '}']))) ++
            codeCells [byte '(', byte ')'] := by
      rw [hCells, ← codeCells_append, ← codeCells_append]
      simp
    rw [hSplit]
    refine List.drop_left' ?_
    simp [codeCells]
    omega
  rcases braces_program hHead hInner hCells with ⟨hOpen, hClose⟩
  rcases byteAt_program hBytes hHead.harmless hFirst with
    ⟨b, hByte, hOther⟩
  rcases callEnd?_program hTail with ⟨hCall, hSemicolon⟩
  have hEnd :
      functionEnd? matchingClose m 0
          (head.length + 1 + inner.length) =
        .ok
          (some (head.length + 1 + inner.length + 1, false)) := by
    unfold functionEnd?
    rw [hByte]
    change (if (b == byte '(') = true then _ else _) = _
    rw [if_neg (by simpa using hOther)]
    rfl
  unfold at?
  rw [hOpen]
  change (m.matchingClose head.length >>= _) = _
  rw [hClose]
  change (functionEnd? matchingClose m 0 _ >>= _) = _
  rw [hEnd]
  change (callEnd? matchingClose m _ _ _ >>= _) = _
  rw [hCall]
  change Except.ok (some (Wrapper.mk 0 (afterSemicolon m _) _ _)) = _
  rw [hSemicolon]
  congr 3
  omega

theorem drop_body_program :
    (program head inner).drop (head.length + 1) =
      inner ++ ['}', '(', ')'] := by
  have hSplit :
      program head inner =
        (head ++ ['{']) ++ (inner ++ ['}', '(', ')']) := by
    simp [program]
  rw [hSplit]
  exact List.drop_left' (by simp)

theorem drop_tail_program :
    (program head inner).drop
        (head.length + 1 + inner.length + 1) = ['(', ')'] := by
  have hSplit :
      program head inner =
        (head ++ '{' :: (inner ++ ['}'])) ++ ['(', ')'] := by
    simp [program]
  rw [hSplit]
  refine List.drop_left' ?_
  simp
  omega

/- The bytes and the size of a program that is plain code. -/
theorem bytes_ofProgram
    (hHead : IsBraceless head)
    (hInner : IsBraceless inner) :
    (ofText (String.ofList (program head inner))).bytes =
        (program head inner).map byte ∧
      (ofText (String.ofList (program head inner))).size =
        head.length + inner.length + 4 := by
  have hHarmless := program_harmless hHead hInner
  have hBytes :
      (ofText (String.ofList (program head inner))).bytes =
        (program head inner).map byte := by
    rw [bytes_ofText,
      bytesOf_ofList fun c hMember => (hHarmless c hMember).1]
  refine ⟨hBytes, ?_⟩
  rw [← length_bytes, hBytes, List.length_map]
  simp [program]
  omega

/- A program that begins with no blank begins at once. -/
theorem skipSpace_program
    (hHead : IsBraceless head)
    (hInner : IsBraceless inner)
    (hFirst : ∀ c ∈ head.head?, isSpace (byte c) = false) :
    (ofText (String.ofList (program head inner))).skipSpace 0 =
      0 := by
  apply skipSpace_eq
  intro b hByte
  rw [byte?_eq_getElem?, (bytes_ofProgram hHead hInner).1] at hByte
  cases head with
  | nil =>
      cases hByte
      decide
  | cons c cs =>
      cases hByte
      exact hFirst c rfl

/- What a program is cut into. -/
theorem slices_program
    (hHead : IsBraceless head)
    (hInner : IsBraceless inner) :
    let m := ofText (String.ofList (program head inner))
    let stop := head.length + inner.length + 4
    let bodyClose := head.length + 1 + inner.length
    m.slice 0 head.length = .ok (String.ofList head) ∧
      m.slice (head.length + 1) bodyClose =
          .ok (String.ofList inner) ∧
        m.slice (bodyClose + 1) stop =
            .ok (String.ofList ['(', ')']) ∧
          m.slice stop stop = .ok (String.ofList []) := by
  intro m stop bodyClose
  have hHarmless := program_harmless hHead hInner
  have hLength : (program head inner).length = stop := by
    simp [program, stop]
    omega
  have hSlice :
      ∀ {left right : Nat},
        left ≤ right → right ≤ stop →
          m.slice left right =
            .ok
              (String.ofList
                (((program head inner).drop left).take
                  (right - left))) := by
    intro left right hOrder hInside
    exact
      slice_ofList (fun c hMember => (hHarmless c hMember).1)
        hOrder (hLength ▸ hInside)
  refine ⟨?_, ?_, ?_, ?_⟩
  · rw [hSlice (Nat.zero_le _) (by omega), Nat.sub_zero,
      List.drop_zero, program, List.take_left' rfl]
  · rw [hSlice (by omega) (by omega), drop_body_program,
      Nat.add_sub_cancel_left, List.take_left' rfl]
  · have hTwo : stop - (bodyClose + 1) = 2 := by omega
    rw [hSlice (by omega) (Nat.le_refl _), drop_tail_program,
      hTwo]
    rfl
  · rw [hSlice (Nat.le_refl _) (Nat.le_refl _), Nat.sub_self,
      List.take_zero]

/- A program is unwrapped if its head has a pair of brackets. -/
theorem unwrap?_program
    (hHead : IsBraceless head)
    (hInner : IsBraceless inner)
    (hFirst :
      ∀ c ∈ head.head?, c ≠ '(' ∧ isSpace (byte c) = false)
    (hPair :
      ['(', ')'] <:+ (Text.squeeze (String.ofList head)).toList ∨
        ['(', ')'] <:+: head) :
    unwrap? (String.ofList (program head inner)) =
      .ok (some (bodyOf (String.ofList inner))) := by
  have hNotRound : head.head? ≠ some '(' := by
    intro hRound
    exact (hFirst '(' hRound).1 rfl
  have hCall := at?_program hHead hInner hNotRound
  have hSize := (bytes_ofProgram hHead hInner).2
  have hSpace :=
    skipSpace_program hHead hInner fun c hHere =>
      (hFirst c hHere).2
  rcases slices_program hHead hInner with
    ⟨hHeadSlice, hInnerSlice, hTailSlice, hAfter⟩
  have hNone : hasNoParameters (String.ofList head) = true := by
    rw [hasNoParameters_iff, String.toList_ofList]
    exact hPair
  have hCallTail :
      plainTails.contains
          (Text.squeeze (String.ofList ['(', ')'])) =
        true := by
    decide +kernel
  have hNothing :
      Text.isBlankText (String.ofList ([] : List Char)) = true := by
    decide +kernel
  unfold unwrap? unwrapBy
  dsimp only
  rw [hSpace, hCall, hSize]
  simp only [bind, Except.bind, hAfter, hHeadSlice, hTailSlice,
    hInnerSlice]
  rw [hNothing, hNone, hCallTail]
  rfl

end Program

end Wrapper

open Wrapper

/-
  Unwrapping completes, and what is unwrapped has the parts of
  a program.  For plain code nothing else is asked: whatever
  head is given with a pair of brackets, it goes.
-/
theorem unwrap?_bodies
    (code : String)
    (head inner : List Char) :
    (∃ found,
        unwrap? code = .ok found ∧
          ∀ body ∈ found,
            ∃ before head inner tail after w,
              Unwraps code before head inner tail after w ∧
                body = bodyOf inner) ∧
      (IsBraceless head ∧ IsBraceless inner ∧
          (∀ c ∈ head.head?,
            c ≠ '(' ∧ isSpace (byte c) = false) ∧
            (['(', ')'] <:+
                (Text.squeeze (String.ofList head)).toList ∨
              ['(', ')'] <:+: head) →
        unwrap? (String.ofList (program head inner)) =
          .ok (some (bodyOf (String.ofList inner)))) := by
  constructor
  · rcases (unwrapBy_settles code).strict_eq_usual with
      ⟨found, -, -, hFound⟩
    refine ⟨found, hFound, ?_⟩
    rintro body rfl
    exact unwrap?_parts hFound
  · rintro ⟨hHead, hInner, hFirst, hPair⟩
    exact unwrap?_program hHead hInner hFirst hPair

/- A program that calls something before the function. -/
def precedingCall : String :=
  "(init(), function()\x7ba();\x7d)()"

/-
  The call before the function is dropped with the wrapper, and
  so are the value of a parameter, the target of an assignment
  and the mark of an asynchronous function.
-/
theorem precedingCall_dropped :
    ((ofText precedingCall).nextCode 0 (byte '{') = some 19 ∧
        (ofText precedingCall).slice 0 19 =
          .ok "(init(), function()") ∧
      unwrap? precedingCall = .ok (some "a();") ∧
        unwrap? "(function(x = f())\x7ba();\x7d)()" =
            .ok (some "a();") ∧
          unwrap? "x = function()\x7ba();\x7d()" =
              .ok (some "a();") ∧
            unwrap? "(async function()\x7ba();\x7d)()" =
              .ok (some "a();") := by
  refine ⟨?_, ?_, ?_, ?_, ?_⟩ <;> decide +kernel

end Devirt

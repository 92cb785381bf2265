import Devirt.Proofs.Detection.Faultless
import Devirt.Proofs.Pattern.Matches
import Devirt.Proofs.Source.Ascii
import Devirt.Restoration.StringTable
import Devirt.Restoration.Wrapper

/-
  Work on the brackets of a script breaks off nowhere.

  Tables of strings are found by the opening bracket at the
  end of a match, calls by the brackets and bangs at its
  beginning.  What the masked text shows there is code, and
  the scanner is at the top level behind every closing
  bracket, so a round bracket after one is code as well.  All
  cuts fall next to such brackets.

  Main declarations:
    * `StringTable.findBy_settles`
    * `Wrapper.Encloses`, `Wrapper.at?_settles`
    * `Wrapper.stripGuardsBy_settles`,
      `Wrapper.unwrapBy_settles`
    * `bracketWork_completes`
-/

------------------------------------------------------------
-- Tables of Strings
------------------------------------------------------------

namespace Devirt

open Scanner CodeMap

namespace StringTable

open Pattern

/- A declaration ends with its opening bracket. -/
theorem declaration_stop
    {text : List Char}
    {found : Match}
    (hMember : found ∈ declaration.all text) :
    text[found.stop - 1]? = some '[' := by
  rcases all_located hMember with ⟨here, there, hLocated⟩
  have hText := hLocated.leads.onText hLocated.onText
  have hBefore : there.before = some '[' := by
    rcases hLocated.leads with
      ⟨_, _, -, _, _, -, _, _, -, _, _, -, _, _, -, _, _, -,
        c, cs, -, hBracket, hThere, -⟩
    rw [hThere, of_decide_eq_true hBracket]
  rw [hLocated.stop_eq]
  exact (hText.getElem?_of_before hBefore).2

theorem firstClosed_settles
    {m : CodeMap}
    {found : List Match}
    (hFound :
      ∀ one ∈ found, one ∈ declaration.all m.masked) :
    Settles
      (fun closer => firstClosed closer m m.masked found)
      fun _ => True := by
  induction found with
  | nil => exact .pure trivial
  | cons one rest ih =>
      have hRest :=
        ih fun other hOther =>
          hFound other (List.mem_cons_of_mem _ hOther)
      unfold firstClosed
      dsimp only
      split_ifs with hCode
      · have hOpening :=
          (hasCode_of_masked
            (declaration_stop
              (hFound one List.mem_cons_self))
            (by decide)).1
        apply Settles.bind
          (Settles.close (k := .square) hOpening)
        rintro (_ | close) -
        · exact hRest
        · exact .pure trivial
      · exact hRest

theorem findBy_settles
    (code : String) :
    Settles (fun closer => findBy closer code)
      fun _ => True :=
  firstClosed_settles fun _ hMember => hMember

end StringTable

end Devirt

------------------------------------------------------------
-- Extents of Calls
------------------------------------------------------------

namespace Devirt

open Scanner CodeMap

namespace Wrapper

/- An offset right behind a closing bracket of code. -/
def Behind (m : CodeMap) (stop : Nat) : Prop :=
  ∃ close, ∃ k : Bracket,
    stop = close + 1 ∧ m.HasCode close k.closing

theorem Behind.le_size
    {m : CodeMap}
    {stop : Nat}
    (hBehind : Behind m stop) :
    stop ≤ m.size := by
  rcases hBehind with ⟨close, k, rfl, hCode⟩
  exact hCode.lt_size

theorem Behind.isBoundary
    {m : CodeMap}
    {stop : Nat}
    (hCut : Cuttable m.bytes)
    (hBehind : Behind m stop) :
    m.isBoundary stop = true := by
  rcases hBehind with ⟨close, k, rfl, hCode⟩
  exact
    isBoundary_succ_of_ascii hCut hCode.byte?_eq
      k.closing_ascii

/- The scanner is at the top level behind a bracket. -/
theorem Behind.topAt
    {bytes : List UInt8}
    {stop : Nat}
    (hBehind : Behind (ofBytes bytes) stop) :
    TopAt bytes stop := by
  rcases hBehind with ⟨close, k, rfl, hCode⟩
  exact topAt_succ_of_hasCode hCode k.closing_plain

/- The function ends behind a bracket, after its body. -/
theorem functionEnd?_settles
    {m : CodeMap}
    {start bodyClose : Nat}
    (hInside : start < m.size)
    (hStart :
      m.byte? start = some (byte '(') →
        m.HasCode start (byte '('))
    (hClose : m.HasCode bodyClose (byte '}')) :
    Settles
      (fun closer => functionEnd? closer m start bodyClose)
      fun found =>
        ∀ finish ∈ found,
          bodyClose < finish.1 ∧ Behind m finish.1 := by
  rcases exists_byte? hInside with ⟨b, hByte⟩
  have hRead : m.byteAt start = .ok b := by
    simp [byteAt, hByte]
  apply (Settles.given hRead).bind
  rintro b rfl
  split_ifs with hRound
  · have hSame : b = byte '(' := by simpa using hRound
    subst hSame
    apply Settles.bind
      (Settles.close (k := .round) (hStart hByte))
    rintro (_ | close) ⟨-, hFound⟩
    · exact .pure (by simp)
    · have hCode := (hFound close rfl).2
      refine .pure ?_
      intro finish hFinish
      split_ifs at hFinish with hEarly
      · simp at hFinish
      · have hEnd : (close + 1, true) = finish := by
          simpa using hFinish
        subst hEnd
        exact
          ⟨Nat.lt_succ_of_le (Nat.not_lt.mp hEarly), close,
            .round, rfl, hCode⟩
  · refine .pure ?_
    rintro finish ⟨⟩
    exact ⟨Nat.lt_succ_self _, bodyClose, .curly, rfl, hClose⟩

/- The call ends behind a bracket, after the function. -/
theorem callEnd?_settles
    {bytes : List UInt8}
    {bodyClose stop : Nat}
    (isBracketed : Bool)
    (hOrder : bodyClose < stop)
    (hBehind : Behind (ofBytes bytes) stop) :
    Settles
      (fun closer =>
        callEnd? closer (ofBytes bytes) bodyClose stop
          isBracketed)
      fun found =>
        ∀ finish ∈ found,
          bodyClose < finish ∧
            Behind (ofBytes bytes) finish := by
  unfold callEnd?
  dsimp only
  split_ifs with hRound hBracketed
  · have hCode :=
      hasCode_skipSpace hBehind.topAt
        Bracket.round.opening_plain (eq_of_beq hRound)
    apply Settles.bind (Settles.close (k := .round) hCode)
    rintro (_ | close) ⟨-, hFound⟩
    · exact .pure (by simp)
    · rcases hFound close rfl with ⟨hAfter, hClose⟩
      have hSkip := le_skipSpace (ofBytes bytes) stop
      refine .pure ?_
      rintro finish ⟨⟩
      have hLater : bodyClose < close + 1 := by omega
      exact ⟨hLater, close, .round, rfl, hClose⟩
  · have hTail :
        (ofBytes bytes).bytesBetween (bodyClose + 1) stop =
          .ok (((ofBytes bytes).bytes.drop (bodyClose + 1)).take
            (stop - (bodyClose + 1))) := by
      have hOrder : bodyClose + 1 ≤ stop := hOrder
      simp [bytesBetween, hOrder, hBehind.le_size]
    apply (Settles.given hTail).bind
    rintro tail -
    refine .pure ?_
    intro finish hFinish
    split_ifs at hFinish
    · have hEnd : stop = finish := by simpa using hFinish
      subst hEnd
      exact ⟨hOrder, hBehind⟩
    · simp at hFinish
  · exact .pure (by simp)

/- A semicolon leaves an offset where the script can be cut. -/
theorem afterSemicolon_boundary
    {m : CodeMap}
    {stop : Nat}
    (hCut : Cuttable m.bytes)
    (hStop : m.isBoundary stop = true) :
    stop ≤ afterSemicolon m stop ∧
      m.isBoundary (afterSemicolon m stop) = true := by
  unfold afterSemicolon
  dsimp only
  split_ifs with hSemicolon
  · have hByte :
        m.byte? (m.skipSpace stop) = some (byte ';') := by
      simpa using hSemicolon
    have hSkip := le_skipSpace m stop
    exact
      ⟨by omega,
        isBoundary_succ_of_ascii hCut hByte (by decide)⟩
  · exact ⟨Nat.le_refl _, hStop⟩

/-
  The offsets of a call stand in order, the braces of its body
  are code, and the script can be cut behind it.
-/
structure Encloses
    (m : CodeMap)
    (start : Nat)
    (w : Wrapper) : Prop where
  start_eq : w.start = start
  start_le : start ≤ w.bodyOpen
  open_code : m.HasCode w.bodyOpen (byte '{')
  open_lt : w.bodyOpen < w.bodyClose
  close_code : m.HasCode w.bodyClose (byte '}')
  close_lt : w.bodyClose < w.stop
  stop_boundary : m.isBoundary w.stop = true

theorem Encloses.start_le_stop
    {m : CodeMap}
    {start : Nat}
    {w : Wrapper}
    (hEncloses : Encloses m start w) :
    w.start ≤ w.stop := by
  have hFirst := hEncloses.start_eq
  have hSecond := hEncloses.start_le
  have hThird := hEncloses.open_lt
  have hFourth := hEncloses.close_lt
  omega

theorem at?_settles
    {bytes : List UInt8}
    {start : Nat}
    (hCut : Cuttable bytes)
    (hStart :
      (ofBytes bytes).byte? start = some (byte '(') →
        (ofBytes bytes).HasCode start (byte '(')) :
    Settles (fun closer => at? closer (ofBytes bytes) start)
      fun found =>
        ∀ w ∈ found, Encloses (ofBytes bytes) start w := by
  have hCut : Cuttable (ofBytes bytes).bytes := by
    rwa [bytes_ofBytes]
  unfold at?
  cases hOpen : (ofBytes bytes).nextCode start (byte '{') with
  | none => exact .pure (by simp)
  | some bodyOpen =>
      rcases nextCode_eq_some hOpen with ⟨hAfter, hOpenCode⟩
      have hInside := hOpenCode.lt_size
      apply Settles.bind
        (Settles.close (k := .curly) hOpenCode)
      rintro (_ | bodyClose) ⟨-, hFound⟩
      · exact .pure (by simp)
      · rcases hFound bodyClose rfl with
          ⟨hBody, hCloseCode⟩
        apply (functionEnd?_settles (by omega) hStart
          hCloseCode).bind
        rintro (_ | ⟨stop, isBracketed⟩) hEnd
        · exact .pure (by simp)
        · rcases hEnd _ rfl with ⟨hStop, hBehind⟩
          apply (callEnd?_settles isBracketed hStop
            hBehind).bind
          rintro (_ | finish) hCall
          · exact .pure (by simp)
          · rcases hCall finish rfl with ⟨hLast, hBehind⟩
            rcases afterSemicolon_boundary hCut
                (hBehind.isBoundary hCut) with
              ⟨hLater, hBoundary⟩
            refine .pure ?_
            rintro w ⟨⟩
            exact
              { start_eq := rfl
                start_le := hAfter
                open_code := hOpenCode
                open_lt := hBody
                close_code := hCloseCode
                close_lt := Nat.lt_of_lt_of_le hLast hLater
                stop_boundary := hBoundary }

------------------------------------------------------------
-- Guards
------------------------------------------------------------

open Pattern

/- A match begins with a round bracket or a bang of code. -/
theorem hasCode_mark
    {m : CodeMap}
    {found : Match}
    (hMember : found ∈ Wrapper.beginning.all m.masked) :
    ∃ mark ∈ ['(', '!'], m.HasCode found.start (byte mark) := by
  rcases all_located hMember with ⟨here, there, hLocated⟩
  have hHead := hLocated.onText.head?_rest
  rw [← hLocated.start_eq] at hHead
  rcases hLocated.leads with
    ⟨_, _, ⟨c, cs, hRest, hClass, -⟩, -⟩ |
      ⟨_, _, ⟨c, cs, hRest, hClass, -⟩, -⟩
  · rw [hRest] at hHead
    have hShown : c = '(' ∨ c = '!' := by
      simpa [oneOf] using hClass
    have hNotBlank : c ≠ ' ' := by
      rcases hShown with rfl | rfl <;> decide
    exact
      ⟨c, by simpa using hShown,
        (hasCode_of_masked hHead.symm hNotBlank).1⟩
  · rw [hRest] at hHead
    have hShown : c = '(' := by simpa using hClass
    have hNotBlank : c ≠ ' ' := by
      rw [hShown]
      decide
    exact
      ⟨c, by simp [hShown],
        (hasCode_of_masked hHead.symm hNotBlank).1⟩

theorem hasCode_start
    {m : CodeMap}
    {found : Match}
    (hMember : found ∈ Wrapper.beginning.all m.masked) :
    ∃ b, m.HasCode found.start b ∧ b < 128 := by
  have hAscii : ∀ mark ∈ ['(', '!'], byte mark < 128 := by
    rw [List.forall_mem_cons, List.forall_mem_singleton]
    decide
  rcases hasCode_mark hMember with ⟨mark, hMark, hCode⟩
  exact ⟨_, hCode, hAscii mark hMark⟩

theorem isGuard_eq
    {m : CodeMap}
    {start : Nat}
    {w : Wrapper}
    (hStart : m.isBoundary start = true)
    (hEncloses : Encloses m start w) :
    ∃ isOne, isGuard m w = .ok isOne := by
  have hSlice :=
    slice_eq hEncloses.start_le_stop
      (hEncloses.start_eq ▸ hStart) hEncloses.stop_boundary
  unfold isGuard
  rw [hSlice]
  exact ⟨_, rfl⟩

/- The edit that takes a call out of a script. -/
def removal (w : Wrapper) : Edit :=
  ⟨w.start, w.stop, ""⟩

/- Guards can be taken out in the order in which they stand. -/
theorem guardsFrom_settles
    (code : String)
    {found : List Match}
    (last : Nat)
    (hFound :
      ∀ one ∈ found,
        one ∈ Wrapper.beginning.all (ofText code).masked) :
    Settles
      (fun closer => guardsFrom closer (ofText code) last found)
      fun guards =>
        inOrder last (guards.map removal) = true ∧
          ((guards.map removal).all (ofText code).isWhole) =
            true := by
  have hCut := bytesOf_cuttable code
  induction found generalizing last with
  | nil => exact .pure ⟨rfl, rfl⟩
  | cons one rest ih =>
      have hRest :
          ∀ other ∈ rest,
            other ∈
              Wrapper.beginning.all (ofText code).masked :=
        fun other hOther =>
          hFound other (List.mem_cons_of_mem _ hOther)
      unfold guardsFrom
      split_ifs with hSkipped
      -- inside the last guard, or not code
      · exact ih last hRest
      · have hLast : last ≤ one.start := by
          simp only [Bool.or_eq_true, decide_eq_true_eq,
            not_or] at hSkipped
          omega
        rcases hasCode_start
            (hFound one List.mem_cons_self) with
          ⟨b, hCode, hAscii⟩
        have hBoundary :=
          isBoundary_of_ascii hCode.byte?_eq hAscii
        apply (at?_settles hCut hCode.of_byte?).bind
        rintro (_ | w) hCall
        · exact ih last hRest
        · have hEncloses :
              Encloses (ofText code) one.start w :=
            hCall w rfl
          rcases isGuard_eq hBoundary hEncloses with
            ⟨isOne, hIsGuard⟩
          apply (Settles.given hIsGuard).bind
          rintro isOne rfl
          split_ifs
          -- later guards begin behind this one
          · apply (ih w.stop hRest).bind
            rintro guards ⟨hOrder, hWhole⟩
            refine .pure ⟨?_, ?_⟩
            · have hFirst := hEncloses.start_eq
              have hOrdered := hEncloses.start_le_stop
              simp only [List.map_cons, inOrder, removal,
                hOrder, Bool.and_true, Bool.and_eq_true,
                decide_eq_true_eq]
              exact ⟨by omega, by omega⟩
            · have hFirst :
                  (ofText code).isBoundary w.start = true :=
                hEncloses.start_eq ▸ hBoundary
              simp only [List.map_cons, List.all_cons, hWhole,
                isWhole, removal, hFirst,
                hEncloses.stop_boundary, Bool.and_self]
          · exact ih last hRest

theorem stripGuardsBy_settles
    (code : String) :
    Settles (fun closer => stripGuardsBy closer code)
      fun _ => True := by
  apply (guardsFrom_settles code 0
    fun _ hMember => hMember).bind
  rintro guards ⟨hOrder, hWhole⟩
  have hEdited :
      (ofText code).applyEdits (guards.map removal) =
        .ok (textOf (editedFrom 0 (ofText code).bytes
          (guards.map removal))) := by
    simp only [applyEdits, hOrder, hWhole, Bool.and_self,
      if_true]
  apply (Settles.given hEdited).bind
  rintro stripped -
  exact .pure trivial

------------------------------------------------------------
-- Unwrapping
------------------------------------------------------------

theorem unwrapBy_settles
    (code : String) :
    Settles (fun closer => unwrapBy closer code)
      fun _ => True := by
  have hCut := cuttable_ofText code
  have hStart :=
    isBoundary_skipSpace hCut (isBoundary_zero hCut)
  apply (at?_settles (bytesOf_cuttable code)
    (hasCode_skipSpace (topAt_zero (bytesOf code))
      Bracket.round.opening_plain)).bind
  rintro (_ | w) hCall
  · exact .pure trivial
  · have hEncloses :
        Encloses (ofText code) ((ofText code).skipSpace 0) w :=
      hCall w rfl
    have hOpen := hEncloses.open_code.byte?_eq
    have hClose := hEncloses.close_code.byte?_eq
    have hAfter :=
      slice_eq
        (le_size_of_isBoundary hEncloses.stop_boundary)
        hEncloses.stop_boundary (isBoundary_size _)
    have hHead :=
      slice_eq hEncloses.start_le hStart
        (isBoundary_of_ascii hOpen (by decide))
    have hTail :=
      slice_eq hEncloses.close_lt
        (isBoundary_succ_of_ascii hCut hClose (by decide))
        hEncloses.stop_boundary
    have hBody :=
      slice_eq hEncloses.open_lt
        (isBoundary_succ_of_ascii hCut hOpen (by decide))
        (isBoundary_of_ascii hClose (by decide))
    apply (Settles.given hAfter).bind
    rintro after -
    apply (Settles.given hHead).bind
    rintro head -
    apply (Settles.given hTail).bind
    rintro tail -
    apply (Settles.given hBody).bind
    rintro body -
    split_ifs <;> exact .pure trivial

end Wrapper

end Devirt

------------------------------------------------------------
-- All Work on Brackets
------------------------------------------------------------

namespace Devirt

open CodeMap

/-
  For every script, all settings and every offset, the work on
  brackets is done without a fault, although the strict closer
  allows to ask for closing brackets at opening brackets of
  code alone, and it gives what the work without checks gives.
-/
theorem bracketWork_completes
    (code : String)
    (settings : DetectorSettings)
    (expected start : Nat) :
    (ofText code).switchBodyBy strictClose start =
        .ok ((ofText code).switchBody? start) ∧
      Lexical.signalsBy strictClose code settings =
        .ok (Lexical.signals code settings) ∧
      detectBy strictClose code settings =
        .ok (detect .lexical code settings) ∧
      Lexical.instructionsBy strictClose code expected =
        .ok (Lexical.instructions code expected) ∧
      (∃ table,
        StringTable.findBy strictClose code = .ok table ∧
          StringTable.find? code = .ok table) ∧
      (∃ stripped,
        Wrapper.stripGuardsBy strictClose code =
            .ok stripped ∧
          Wrapper.stripGuards code = .ok stripped) ∧
      ∃ body,
        Wrapper.unwrapBy strictClose code = .ok body ∧
          Wrapper.unwrap? code = .ok body := by
  rcases ((ofText code).switchBodyBy_settles
      start).strict_eq_usual with
    ⟨switchBody, ⟨rfl, -⟩, hSwitch, -⟩
  rcases (Lexical.signalsBy_settles code
      settings).strict_eq_usual with
    ⟨signals, rfl, hSignals, -⟩
  rcases (detectBy_settles code settings).strict_eq_usual with
    ⟨features, rfl, hDetect, -⟩
  rcases (Lexical.instructionsBy_settles code
      expected).strict_eq_usual with
    ⟨instructions, rfl, hInstructions, -⟩
  rcases (StringTable.findBy_settles code).strict_eq_usual with
    ⟨table, -, hTable⟩
  rcases (Wrapper.stripGuardsBy_settles
      code).strict_eq_usual with
    ⟨stripped, -, hStripped⟩
  rcases (Wrapper.unwrapBy_settles code).strict_eq_usual with
    ⟨body, -, hBody⟩
  exact
    ⟨hSwitch, hSignals, hDetect, hInstructions,
      ⟨table, hTable⟩, ⟨stripped, hStripped⟩, body, hBody⟩

end Devirt

import Devirt.Proofs.Source.Ascii

/-
  Changes of the code of a script, and what the scanner makes
  of them.

  A recoding keeps the cells of a script, except for runs of
  code that begin at the top level and hold neither quotes nor
  slashes; these become others of the kind.  The scanner reads
  the result in the modes in which it has read the script,
  unless a slash of the code changes its meaning.  Without such
  slashes the result has the literals of the script.

  Main declarations:
    * `Scanner.scan`, `CodeMap.cells_ofBytes`
    * `CodeMap.Recodes`
    * `CodeMap.literalBytes`, `CodeMap.Undivided`
    * `CodeMap.ReadsAlike`, `CodeMap.Recodes.literalBytes_eq`
-/

------------------------------------------------------------
-- Scanned Cells
------------------------------------------------------------

namespace Devirt

namespace Scanner

open CodeMap

/-
  The cells of bytes that are left, from a state and the bytes
  before them in reverse order.
-/
def scan
    (s : State)
    (before bytes : List UInt8) :
    List Cell :=
  List.zipWith Cell.mk bytes (run s before bytes)

theorem scan_cons
    (s : State)
    (before : List UInt8)
    (b : UInt8)
    (after : List UInt8) :
    scan s before (b :: after) =
      ⟨b, (step s before b after).1⟩ ::
        scan (step s before b after).2 (b :: before) after :=
  rfl

theorem scan_bytes
    (s : State)
    (before bytes : List UInt8) :
    (scan s before bytes).map (·.byte) = bytes := by
  induction bytes generalizing s before with
  | nil => rfl
  | cons b after ih => rw [scan_cons, List.map_cons, ih]

/-
  A byte that leaves the top level where it is.
-/
structure IsInert (b : UInt8) : Prop where
  quote : isQuote b = false
  slash : b ≠ slash

theorem IsPlain.inert
    {b : UInt8}
    (hPlain : IsPlain b) :
    IsInert b :=
  ⟨hPlain.quote, hPlain.slash⟩

/- Inert bytes at the top level are code and stay there. -/
theorem scan_inert
    {run : List UInt8}
    (s : State)
    (before rest : List UInt8)
    (hTop : s.mode = .top)
    (hInert : ∀ b ∈ run, IsInert b) :
    ∃ next,
      next.mode = .top ∧
        scan s before (run ++ rest) =
          codeCells run ++
            scan next (run.reverse ++ before) rest := by
  induction run generalizing s before with
  | nil => exact ⟨s, hTop, rfl⟩
  | cons b run ih =>
      rcases List.forall_mem_cons.mp hInert with
        ⟨hFirst, hRest⟩
      have hStep :
          (step s before b (run ++ rest)).1 = true ∧
            (step s before b (run ++ rest)).2.mode = .top := by
        unfold step
        rw [hTop]
        exact
          stepTop_of_inert _ _ _ hFirst.quote hFirst.slash
      rcases ih _ (b :: before) hStep.2 hRest with
        ⟨next, hNext, hScan⟩
      refine ⟨next, hNext, ?_⟩
      rw [List.cons_append, scan_cons, hStep.1, hScan]
      simp

/- Inert bytes that begin with a plain one were at the top. -/
theorem mode_of_plain
    {s : State}
    {before after : List UInt8}
    {b : UInt8}
    {cells : List Cell}
    (hFits : s.mode.Fits (b :: after))
    (hPlain : IsPlain b)
    (hScan :
      (⟨b, true⟩ : Cell) :: cells =
        scan s before (b :: after)) :
    s.mode = .top := by
  rw [scan_cons] at hScan
  have hFlag := congrArg Cell.isCode (List.cons.inj hScan).1
  exact step_of_plain hFits hPlain hFlag.symm

end Scanner

namespace CodeMap

open Scanner

theorem cells_ofBytes
    (bytes : List UInt8) :
    (ofBytes bytes).cells.toList =
      scan State.initial [] bytes :=
  rfl

end CodeMap

end Devirt

------------------------------------------------------------
-- Recodings
------------------------------------------------------------

namespace Devirt

open Scanner

namespace CodeMap

/-
  Bytes that keep the cells of a script but for some of its
  code.
-/
inductive Recodes : List Cell → List UInt8 → Prop where
  | done :
      Recodes [] []
  | keep
      {cells : List Cell}
      {bytes : List UInt8}
      (c : Cell)
      (hRest : Recodes cells bytes) :
      Recodes (c :: cells) (c.byte :: bytes)
  | change
      {first : UInt8}
      {old new : List UInt8}
      {cells : List Cell}
      {bytes : List UInt8}
      (hFirst : IsPlain first)
      (hOld : ∀ b ∈ old, IsInert b)
      (hNew : ∀ b ∈ new, IsInert b)
      (hAscii : IsAscii new)
      (hRest : Recodes cells bytes) :
      Recodes
        (codeCells (first :: old) ++ cells)
        (new ++ bytes)

theorem Recodes.keepAll
    {cells : List Cell}
    {bytes : List UInt8}
    (kept : List Cell)
    (hRest : Recodes cells bytes) :
    Recodes (kept ++ cells)
      (kept.map (·.byte) ++ bytes) := by
  induction kept with
  | nil => exact hRest
  | cons c kept ih => exact .keep c ih

/- Recodings of ASCII cells are ASCII. -/
theorem Recodes.isAscii
    {cells : List Cell}
    {bytes : List UInt8}
    (hRecodes : Recodes cells bytes)
    (hCells : IsAscii (cells.map (·.byte))) :
    IsAscii bytes := by
  induction hRecodes with
  | done => exact hCells
  | keep c hRest ih =>
      rcases List.forall_mem_cons.mp hCells with
        ⟨hFirst, hLater⟩
      exact List.forall_mem_cons.mpr ⟨hFirst, ih hLater⟩
  | change hFirst hOld hNew hAscii hRest ih =>
      rw [List.map_append] at hCells
      exact
        List.forall_mem_append.mpr
          ⟨hAscii, ih (List.forall_mem_append.mp hCells).2⟩

/- What is not code is the next byte still. -/
theorem Recodes.head?_of_literal
    {c : Cell}
    {cells : List Cell}
    {bytes : List UInt8}
    (hRecodes : Recodes (c :: cells) bytes)
    (hLiteral : c.isCode = false) :
    bytes.head? = some c.byte := by
  cases hRecodes with
  | keep c hRest => rfl
  | change => simp at hLiteral

/- The bytes that are not code, in order. -/
def literalBytes (cells : List Cell) : List UInt8 :=
  (cells.filter fun c => !c.isCode).map (·.byte)

/- No slash is code: all of them stand in literals. -/
def Undivided (cells : List Cell) : Prop :=
  ∀ c ∈ cells, c.isCode = true → c.byte ≠ slash

instance (cells : List Cell) : Decidable (Undivided cells) :=
  List.decidableBAll _ cells

theorem literalBytes_cons
    (c : Cell)
    (cells : List Cell) :
    literalBytes (c :: cells) =
      (if c.isCode then [] else [c.byte]) ++
        literalBytes cells := by
  cases hCode : c.isCode <;> simp [literalBytes, hCode]

theorem literalBytes_code
    (run : List UInt8)
    (cells : List Cell) :
    literalBytes (codeCells run ++ cells) =
      literalBytes cells := by
  induction run with
  | nil => rfl
  | cons b run ih => simpa [literalBytes_cons] using ih

theorem undivided_code
    {run : List UInt8}
    {cells : List Cell}
    (hInert : ∀ b ∈ run, IsInert b)
    (hCells : Undivided cells) :
    Undivided (codeCells run ++ cells) := by
  intro c hMember hCode
  rcases List.mem_append.mp hMember with hRun | hRest
  · rcases List.mem_map.mp hRun with ⟨b, hByte, rfl⟩
    exact (hInert b hByte).slash
  · exact hCells c hRest hCode

end CodeMap

------------------------------------------------------------
-- Scanning Again
------------------------------------------------------------

namespace Scanner

/- A slash that is no code is followed by a comment's mark. -/
theorem comment_of_slash
    {last : Option (List UInt8)}
    {before after : List UInt8}
    (hLiteral : (stepTop last before slash after).1 = false) :
    (after.head? = some slash ∧
        stepTop last before slash after =
          (false, ⟨.lineComment, last⟩)) ∨
      (after.head? = some asterisk ∧
        stepTop last before slash after =
          (false, ⟨.blockComment false, last⟩)) := by
  have hQuote : isQuote slash = false := by decide
  by_cases hLine : after.head? = some slash
  · left
    simp [stepTop, hQuote, hLine]
  · by_cases hBlock : after.head? = some asterisk
    · right
      have hOther : asterisk ≠ slash := by decide
      simp [stepTop, hQuote, hBlock, hOther]
    · simp only [stepTop, hQuote, beq_eq_false_iff_ne.mpr hLine,
        beq_eq_false_iff_ne.mpr hBlock, Bool.and_false,
        Bool.false_eq_true, if_false] at hLiteral
      split_ifs at hLiteral
      split at hLiteral <;> simp at hLiteral

/- The mark behind the slash of a comment is no code either. -/
theorem step_mark
    {last : Option (List UInt8)}
    {before after : List UInt8}
    (behind : List UInt8)
    {mark : UInt8}
    {rest : List UInt8}
    (hAfter : after = mark :: rest)
    (hLiteral : (stepTop last before slash after).1 = false) :
    (step (stepTop last before slash after).2 behind mark
      rest).1 = false := by
  subst hAfter
  rcases comment_of_slash hLiteral with
    ⟨hMark, hStep⟩ | ⟨hMark, hStep⟩
  · have hSlash : mark = slash := by simpa using hMark
    rw [hStep, hSlash]
    rfl
  · have hAsterisk : mark = asterisk := by simpa using hMark
    rw [hStep, hAsterisk]
    rfl

/-
  At the top level, what is read hangs on the byte alone,
  unless it is a slash; a slash of a comment hangs on the next
  byte as well.
-/
theorem stepTop_agrees
    {last other : Option (List UInt8)}
    {before behind after ahead : List UInt8}
    {b : UInt8}
    (hSlash : (stepTop last before b after).1 = true → b ≠ slash)
    (hHead : b = slash → ahead.head? = after.head?) :
    (stepTop other behind b ahead).1 =
        (stepTop last before b after).1 ∧
      (stepTop other behind b ahead).2.mode =
        (stepTop last before b after).2.mode := by
  by_cases hHere : b = slash
  · subst hHere
    have hLiteral :
        (stepTop last before slash after).1 = false :=
      Bool.eq_false_iff.mpr fun hCode => hSlash hCode rfl
    have hQuote : isQuote slash = false := by decide
    have hOther : asterisk ≠ slash := by decide
    rcases comment_of_slash hLiteral with
      ⟨hMark, hStep⟩ | ⟨hMark, hStep⟩
    · simp [stepTop, hQuote, hHead rfl, hMark]
    · simp [stepTop, hQuote, hHead rfl, hMark, hOther]
  · cases hQuote : isQuote b with
    | true => simp [stepTop, hQuote]
    | false =>
        have hHere :=
          stepTop_of_inert last before after hQuote hHere
        have hThere :=
          stepTop_of_inert other behind ahead hQuote ‹_›
        rw [hHere.1, hHere.2, hThere.1, hThere.2]
        exact ⟨rfl, rfl⟩

/-
  One byte is read alike in states of the same mode, if it is
  no slash of code and the slash of a comment is followed by
  the same byte.
-/
theorem step_agrees
    {s t : State}
    {b : UInt8}
    {before after ahead : List UInt8}
    (behind : List UInt8)
    (hMode : t.mode = s.mode)
    (hFits : s.mode.Fits (b :: after))
    (hSlash : (step s before b after).1 = true → b ≠ slash)
    (hHead :
      s.mode = .top → b = slash →
        ahead.head? = after.head?) :
    (step t behind b ahead).1 = (step s before b after).1 ∧
      (step t behind b ahead).2.mode =
        (step s before b after).2.mode := by
  rcases s with ⟨_, last⟩
  rcases t with ⟨mode, other⟩
  dsimp only at hMode
  subst hMode
  cases mode with
  | top => exact stepTop_agrees hSlash (hHead rfl)
  | quoted q =>
      simp only [step]
      split_ifs <;> exact ⟨rfl, rfl⟩
  | escaped q => exact ⟨rfl, rfl⟩
  | lineComment =>
      simp only [step] at hSlash ⊢
      split_ifs at hSlash ⊢ with hFeed
      · apply stepTop_agrees hSlash
        intro hHere
        have hNever : slash ≠ lineFeed := by decide
        exact absurd (hHere ▸ eq_of_beq hFeed) hNever
      · exact ⟨rfl, rfl⟩
  | blockComment star =>
      simp only [step]
      split_ifs <;> exact ⟨rfl, rfl⟩
  | regex left =>
      cases left with
      | zero =>
          have hHere : b = slash := by
            simpa [Mode.Fits] using hFits
          exact absurd hHere (hSlash rfl)
      | succ left => exact ⟨rfl, rfl⟩

end Scanner

namespace CodeMap

/-
  A slash that opens a comment keeps the mark behind it, which
  is no code.
-/
theorem Recodes.head?_of_comment
    {s : State}
    {before after out : List UInt8}
    (hTop : s.mode = .top)
    (hLiteral : (step s before slash after).1 = false)
    (hRest :
      Recodes
        (scan (step s before slash after).2 (slash :: before)
          after) out) :
    out.head? = after.head? := by
  unfold step at hLiteral hRest
  rw [hTop] at hLiteral hRest
  cases after with
  | nil =>
      rcases comment_of_slash hLiteral with
        ⟨hMark, -⟩ | ⟨hMark, -⟩ <;> simp at hMark
  | cons mark rest =>
      rw [scan_cons] at hRest
      exact
        hRest.head?_of_literal (step_mark _ rfl hLiteral)

/-
  Read in the mode in which cells have been read, other bytes
  have the literals of the cells, if no slash is code.
-/
def ReadsAlike
    (cells : List Cell)
    (out : List UInt8) : Prop :=
  ∀ {s t : State} {before : List UInt8}
    (behind : List UInt8) {bytes : List UInt8},
    cells = scan s before bytes →
      t.mode = s.mode →
        s.mode.Fits bytes →
          Undivided cells →
            literalBytes (scan t behind out) =
                literalBytes cells ∧
              Undivided (scan t behind out)

/- A cell that is kept is one step in both. -/
theorem ReadsAlike.keep
    {c : Cell}
    {cells : List Cell}
    {out : List UInt8}
    (hRest : Recodes cells out)
    (hAlike : ReadsAlike cells out) :
    ReadsAlike (c :: cells) (c.byte :: out) := by
  intro s t before behind bytes hCells hMode hFits hCode
  cases bytes with
  | nil => cases hCells
  | cons b after =>
      rw [scan_cons] at hCells
      rcases List.cons.inj hCells with ⟨rfl, hLater⟩
      rcases List.forall_mem_cons.mp hCode with
        ⟨hHere, hCode⟩
      have hHead :
          s.mode = .top → b = slash →
            out.head? = after.head? := by
        intro hTop hSlash
        subst hSlash
        subst hLater
        have hLiteral := mt hHere (not_not_intro rfl)
        exact
          hRest.head?_of_comment hTop
            (Bool.eq_false_iff.mpr hLiteral)
      have hStep := step_agrees behind hMode hFits hHere hHead
      rcases hAlike (b :: behind) hLater hStep.2
          (step_fits before hFits) hCode with
        ⟨hLiterals, hUndivided⟩
      rw [scan_cons]
      refine ⟨?_, ?_⟩
      · rw [literalBytes_cons, literalBytes_cons, hStep.1,
          hLiterals]
      · refine List.forall_mem_cons.mpr ⟨?_, hUndivided⟩
        rw [hStep.1]
        exact hHere

/-
  A run that changes leads from the top level to the top level
  in both.
-/
theorem ReadsAlike.change
    {first : UInt8}
    {old new : List UInt8}
    {cells : List Cell}
    {out : List UInt8}
    (hFirst : IsPlain first)
    (hOld : ∀ b ∈ old, IsInert b)
    (hNew : ∀ b ∈ new, IsInert b)
    (hAlike : ReadsAlike cells out) :
    ReadsAlike (codeCells (first :: old) ++ cells)
      (new ++ out) := by
  intro s t before behind bytes hCells hMode hFits hCode
  have hRun : ∀ b ∈ first :: old, IsInert b :=
    List.forall_mem_cons.mpr ⟨hFirst.inert, hOld⟩
  have hBytes :
      bytes = (first :: old) ++ cells.map (·.byte) := by
    rw [← scan_bytes s before bytes, ← hCells,
      List.map_append, codeCells_bytes]
  subst hBytes
  have hTop : s.mode = .top :=
    mode_of_plain hFits hFirst hCells
  rcases scan_inert s before (cells.map (·.byte)) hTop hRun
    with ⟨next, hNext, hScan⟩
  rcases scan_inert t behind out (hMode.trans hTop) hNew with
    ⟨other, hOther, hScanned⟩
  have hLater := List.append_cancel_left (hCells.trans hScan)
  have hCode : Undivided cells := fun c hMember =>
    hCode c (List.mem_append_right _ hMember)
  have hFits : next.mode.Fits (cells.map (·.byte)) := by
    rw [hNext]
    trivial
  rcases hAlike (new.reverse ++ behind) hLater
      (hOther.trans hNext.symm) hFits hCode with
    ⟨hLiterals, hUndivided⟩
  rw [hScanned, literalBytes_code, literalBytes_code]
  exact ⟨hLiterals, undivided_code hNew hUndivided⟩

/- The scanner reads a recoding like what it recodes. -/
theorem Recodes.readsAlike
    {cells : List Cell}
    {out : List UInt8}
    (hRecodes : Recodes cells out) :
    ReadsAlike cells out := by
  induction hRecodes with
  | done =>
      intro s t before behind bytes hCells hMode hFits hCode
      exact ⟨rfl, hCode⟩
  | keep c hRest ih => exact ih.keep hRest
  | change hFirst hOld hNew hAscii hRest ih =>
      exact ih.change hFirst hOld hNew

/- Without slashes of code, recodings keep the literals. -/
theorem Recodes.literalBytes_eq
    {bytes out : List UInt8}
    (hRecodes : Recodes (ofBytes bytes).cells.toList out)
    (hCode : Undivided (ofBytes bytes).cells.toList) :
    literalBytes (ofBytes out).cells.toList =
        literalBytes (ofBytes bytes).cells.toList ∧
      Undivided (ofBytes out).cells.toList :=
  hRecodes.readsAlike [] (cells_ofBytes bytes) rfl trivial
    hCode

end CodeMap

end Devirt

import Devirt.Proofs.Source.Utf8

/-
  The scanner between the bytes of a script.

  Each byte is read in a state, and the state fits the bytes
  that follow: a string is open under a quote, and a regular
  expression has its closing slash ahead.  So a byte of code
  that is no quote, slash or line feed was read at the top
  level, and the scanner stays there after it and after the
  blanks behind it.

  Main declarations:
    * `Scanner.stateAt`, `Scanner.flags_getElem?`
    * `Scanner.Mode.Fits`, `Scanner.stateAt_fits`
    * `Scanner.IsPlain`, `Scanner.topAt_of_flag`
    * `CodeMap.HasCode`, `CodeMap.hasCode_iff_topAt`
    * `CodeMap.topAt_skipSpace`,
      `CodeMap.hasCode_skipSpace`
-/

------------------------------------------------------------
-- States between Bytes
------------------------------------------------------------

namespace Devirt

namespace Scanner

/-
  The state after so many bytes, from a state and the bytes
  read before in reverse order.
-/
def stateFrom :
    State → List UInt8 → List UInt8 → Nat → State
  | s, before, b :: after, n + 1 =>
    stateFrom (step s before b after).2 (b :: before) after n
  | s, _, _, _ => s

/-
  The state in which the byte at an offset is read.
-/
def stateAt (bytes : List UInt8) (offset : Nat) : State :=
  stateFrom State.initial [] bytes offset

/-
  What is read at an offset of a script: whether the byte is
  code, and the state after it.
-/
def stepAt
    (bytes : List UInt8)
    (offset : Nat)
    (b : UInt8) :
    Bool × State :=
  step (stateAt bytes offset) (bytes.take offset).reverse b
    (bytes.drop (offset + 1))

theorem stateFrom_succ
    {bytes : List UInt8}
    {offset : Nat}
    {b : UInt8}
    (s : State)
    (before : List UInt8)
    (hByte : bytes[offset]? = some b) :
    stateFrom s before bytes (offset + 1) =
      (step (stateFrom s before bytes offset)
        ((bytes.take offset).reverse ++ before) b
        (bytes.drop (offset + 1))).2 := by
  induction bytes generalizing s before offset with
  | nil => simp at hByte
  | cons first after ih =>
      cases offset with
      | zero =>
          have hFirst : first = b := by simpa using hByte
          subst b
          simp [stateFrom]
      | succ offset =>
          have hLater : after[offset]? = some b := by
            simpa using hByte
          rw [stateFrom, ih _ _ hLater]
          simp [stateFrom]

theorem run_getElem?
    {bytes : List UInt8}
    {offset : Nat}
    {b : UInt8}
    (s : State)
    (before : List UInt8)
    (hByte : bytes[offset]? = some b) :
    (run s before bytes)[offset]? =
      some (step (stateFrom s before bytes offset)
        ((bytes.take offset).reverse ++ before) b
        (bytes.drop (offset + 1))).1 := by
  induction bytes generalizing s before offset with
  | nil => simp at hByte
  | cons first after ih =>
      cases offset with
      | zero =>
          have hFirst : first = b := by simpa using hByte
          subst b
          simp [run, stateFrom]
      | succ offset =>
          have hLater : after[offset]? = some b := by
            simpa using hByte
          simp [run, stateFrom, ih _ _ hLater]

theorem stateAt_zero
    (bytes : List UInt8) :
    stateAt bytes 0 = State.initial := by
  cases bytes <;> rfl

theorem stateAt_succ
    {bytes : List UInt8}
    {offset : Nat}
    {b : UInt8}
    (hByte : bytes[offset]? = some b) :
    stateAt bytes (offset + 1) =
      (stepAt bytes offset b).2 := by
  have hNext := stateFrom_succ State.initial [] hByte
  rwa [List.append_nil] at hNext

theorem flags_getElem?
    {bytes : List UInt8}
    {offset : Nat}
    {b : UInt8}
    (hByte : bytes[offset]? = some b) :
    (flags bytes)[offset]? =
      some (stepAt bytes offset b).1 := by
  have hFlag := run_getElem? State.initial [] hByte
  rwa [List.append_nil] at hFlag

end Scanner

end Devirt

------------------------------------------------------------
-- Modes that Fit
------------------------------------------------------------

namespace Devirt

namespace Scanner

/- An offset later than the first place is one of the rest. -/
theorem getElem?_cons_sub
    {α : Type}
    {offset found : Nat}
    (hLater : offset + 1 ≤ found)
    (first : α)
    (rest : List α) :
    (first :: rest)[found - offset]? =
      rest[found - (offset + 1)]? := by
  have hShift :
      found - offset = found - (offset + 1) + 1 := by
    omega
  rw [hShift, List.getElem?_cons_succ]

/- The length of a regular expression leads to its slash. -/
theorem regexLength?_slash
    {inClass escaped : Bool}
    {n length : Nat}
    {bytes : List UInt8}
    (hLength :
      regexLength? inClass escaped n bytes = some length) :
    n ≤ length ∧ bytes[length - n]? = some slash := by
  have hStep :
      ∀ {n : Nat} {b : UInt8} {rest : List UInt8},
        n + 1 ≤ length ∧
            rest[length - (n + 1)]? = some slash →
          n ≤ length ∧
            (b :: rest)[length - n]? = some slash := by
    rintro n b rest ⟨hAfter, hSlash⟩
    refine ⟨by omega, ?_⟩
    rw [getElem?_cons_sub hAfter]
    exact hSlash
  fun_induction regexLength? inClass escaped n bytes with
  | case1 => simp at hLength
  | case2 inClass n b rest ih => exact hStep (ih hLength)
  | case3 inClass n b rest hBackslash ih =>
      exact hStep (ih hLength)
  | case4 => simp at hLength
  | case5 inClass n b rest _ _ _ ih =>
      exact hStep (ih hLength)
  | case6 inClass n b rest _ _ _ _ ih =>
      exact hStep (ih hLength)
  | case7 => simp at hLength
  | case8 inClass n b rest _ _ _ _ hSlash hSome =>
      have hHere : b = slash ∧ inClass = false := by
        simpa using hSlash
      have hEnd : n = length := Option.some.inj hLength
      subst length
      simp [hHere.1]
  | case9 inClass n b rest _ _ _ _ _ ih =>
      exact hStep (ih hLength)

/-
  A mode fits the bytes that follow: strings are closed by
  quotes, and a regular expression has its slash ahead.
-/
def Mode.Fits (after : List UInt8) : Mode → Prop
  | .quoted close => isQuote close = true
  | .escaped close => isQuote close = true
  | .regex left => after[left]? = some slash
  | _ => True

theorem stepTop_fits
    (last : Option (List UInt8))
    (before : List UInt8)
    (b : UInt8)
    (after : List UInt8) :
    (stepTop last before b after).2.mode.Fits after := by
  fun_cases stepTop last before b after with
  | case1 hQuote => exact hQuote
  | case2 => trivial
  | case3 => trivial
  | case4 _ _ _ _ n hLength =>
      exact (regexLength?_slash hLength).2
  | case5 => trivial
  | case6 => trivial
  | case7 => trivial

/- One byte leaves a mode that fits what is left. -/
theorem step_fits
    {s : State}
    {b : UInt8}
    {after : List UInt8}
    (before : List UInt8)
    (hFits : s.mode.Fits (b :: after)) :
    (step s before b after).2.mode.Fits after := by
  rcases s with ⟨mode, last⟩
  cases mode with
  | top => exact stepTop_fits last before b after
  | quoted q =>
      simp only [step]
      split_ifs <;> first | exact hFits | trivial
  | escaped q => exact hFits
  | lineComment =>
      simp only [step]
      split_ifs
      · exact stepTop_fits last before b after
      · trivial
  | blockComment star =>
      simp only [step]
      split_ifs <;> trivial
  | regex left =>
      cases left with
      | zero => trivial
      | succ left => simpa [Mode.Fits, step] using hFits

theorem stateFrom_fits
    {s : State}
    {bytes : List UInt8}
    (before : List UInt8)
    (offset : Nat)
    (hFits : s.mode.Fits bytes) :
    (stateFrom s before bytes offset).mode.Fits
      (bytes.drop offset) := by
  induction bytes generalizing s before offset with
  | nil => simpa [stateFrom] using hFits
  | cons b after ih =>
      cases offset with
      | zero => simpa [stateFrom] using hFits
      | succ offset =>
          exact ih (b :: before) offset (step_fits before hFits)

/- The scanner's mode fits the rest of the script throughout. -/
theorem stateAt_fits
    (bytes : List UInt8)
    (offset : Nat) :
    (stateAt bytes offset).mode.Fits (bytes.drop offset) :=
  stateFrom_fits [] offset trivial

end Scanner

end Devirt

------------------------------------------------------------
-- The Top Level
------------------------------------------------------------

namespace Devirt

namespace Scanner

/-
  A byte that neither opens nor closes a literal or comment.
-/
structure IsPlain (b : UInt8) : Prop where
  quote : isQuote b = false
  slash : b ≠ slash
  lineFeed : b ≠ lineFeed

/- The byte at an offset is read at the top level. -/
def TopAt (bytes : List UInt8) (offset : Nat) : Prop :=
  (stateAt bytes offset).mode = .top

theorem topAt_zero
    (bytes : List UInt8) :
    TopAt bytes 0 := by
  unfold TopAt
  rw [stateAt_zero]
  rfl

/- The top level is left by quotes and slashes only. -/
theorem stepTop_of_inert
    {b : UInt8}
    (last : Option (List UInt8))
    (before after : List UInt8)
    (hQuote : isQuote b = false)
    (hSlash : b ≠ slash) :
    (stepTop last before b after).1 = true ∧
      (stepTop last before b after).2.mode = .top := by
  simp only [stepTop, hQuote, beq_eq_false_iff_ne.mpr hSlash,
    Bool.false_and, Bool.false_eq_true, if_false]
  split_ifs <;> exact ⟨rfl, rfl⟩

theorem stepAt_of_topAt
    {bytes : List UInt8}
    {offset : Nat}
    {b : UInt8}
    (hTop : TopAt bytes offset)
    (hQuote : isQuote b = false)
    (hSlash : b ≠ slash) :
    (stepAt bytes offset b).1 = true ∧
      (stepAt bytes offset b).2.mode = .top := by
  unfold TopAt at hTop
  unfold stepAt step
  rw [hTop]
  exact stepTop_of_inert _ _ _ hQuote hSlash

theorem topAt_succ
    {bytes : List UInt8}
    {offset : Nat}
    {b : UInt8}
    (hTop : TopAt bytes offset)
    (hByte : bytes[offset]? = some b)
    (hQuote : isQuote b = false)
    (hSlash : b ≠ slash) :
    TopAt bytes (offset + 1) := by
  unfold TopAt
  rw [stateAt_succ hByte]
  exact (stepAt_of_topAt hTop hQuote hSlash).2

/-
  Plain bytes are code at the top level only: within strings
  and expressions the bytes of code are quotes, slashes and
  line feeds.
-/
theorem step_of_plain
    {s : State}
    {b : UInt8}
    {before after : List UInt8}
    (hFits : s.mode.Fits (b :: after))
    (hPlain : IsPlain b)
    (hCode : (step s before b after).1 = true) :
    s.mode = .top := by
  rcases s with ⟨mode, last⟩
  cases mode with
  | top => rfl
  | quoted q =>
      have hOther : b ≠ q := by
        rintro rfl
        exact Bool.false_ne_true (hPlain.quote.symm.trans hFits)
      have hFeed := hPlain.lineFeed
      simp [step, hOther, hFeed] at hCode
      split_ifs at hCode
  | escaped q => simp [step] at hCode
  | lineComment =>
      simp [step, hPlain.lineFeed] at hCode
  | blockComment star =>
      simp [step, hPlain.slash] at hCode
  | regex left =>
      cases left with
      | zero =>
          -- what closes the expression is the slash ahead
          have hHere : b = slash := by
            simpa [Mode.Fits] using hFits
          exact absurd hHere hPlain.slash
      | succ left => simp [step] at hCode

theorem topAt_of_flag
    {bytes : List UInt8}
    {offset : Nat}
    {b : UInt8}
    (hByte : bytes[offset]? = some b)
    (hPlain : IsPlain b)
    (hCode : (flags bytes)[offset]? = some true) :
    TopAt bytes offset := by
  have hFits := stateAt_fits bytes offset
  rcases List.getElem?_eq_some_iff.mp hByte with
    ⟨hInside, hHere⟩
  rw [List.drop_eq_getElem_cons hInside, hHere] at hFits
  rw [flags_getElem? hByte] at hCode
  exact step_of_plain hFits hPlain (Option.some.inj hCode)

end Scanner

end Devirt

------------------------------------------------------------
-- Maps
------------------------------------------------------------

namespace Devirt

open Scanner

namespace CodeMap

/- A byte of code stands at an offset. -/
def HasCode (m : CodeMap) (offset : Nat) (b : UInt8) : Prop :=
  m.cells[offset]? = some ⟨b, true⟩

namespace HasCode

variable {m : CodeMap}
variable {offset : Nat}
variable {b : UInt8}

theorem byte?_eq
    (hCode : m.HasCode offset b) :
    m.byte? offset = some b := by
  unfold HasCode at hCode
  simp [byte?, hCode]

theorem isCode_eq
    (hCode : m.HasCode offset b) :
    m.isCode offset = true := by
  unfold HasCode at hCode
  simp [isCode, hCode]

theorem lt_size
    (hCode : m.HasCode offset b) :
    offset < m.size :=
  lt_size_of_byte? hCode.byte?_eq

/- A byte that can be read where code stands is that code. -/
theorem of_byte?
    {other : UInt8}
    (hCode : m.HasCode offset b)
    (hByte : m.byte? offset = some other) :
    m.HasCode offset other := by
  have hSame : b = other :=
    Option.some.inj (hCode.byte?_eq.symm.trans hByte)
  exact hSame ▸ hCode

end HasCode

/- A byte that can be read where the script is code. -/
theorem hasCode_of_isCode
    {m : CodeMap}
    {offset : Nat}
    {b : UInt8}
    (hCode : m.isCode offset = true)
    (hByte : m.byte? offset = some b) :
    m.HasCode offset b := by
  unfold isCode at hCode
  unfold byte? at hByte
  unfold HasCode
  split at hCode
  · next c hCell =>
      rw [hCell] at hByte
      cases hByte
      rw [hCell, ← hCode]
  · cases hCode

theorem hasCode_ofBytes_iff
    (bytes : List UInt8)
    (offset : Nat)
    (b : UInt8) :
    (ofBytes bytes).HasCode offset b ↔
      bytes[offset]? = some b ∧
        (flags bytes)[offset]? = some true := by
  simp [HasCode, ofBytes, List.getElem?_zipWith_eq_some]

/-
  A plain byte is code exactly where the scanner reads it at
  the top level.
-/
theorem hasCode_iff_topAt
    {bytes : List UInt8}
    {offset : Nat}
    {b : UInt8}
    (hByte : bytes[offset]? = some b)
    (hPlain : IsPlain b) :
    (ofBytes bytes).HasCode offset b ↔
      TopAt bytes offset := by
  rw [hasCode_ofBytes_iff]
  constructor
  · rintro ⟨-, hFlag⟩
    exact topAt_of_flag hByte hPlain hFlag
  · intro hTop
    have hStep :=
      stepAt_of_topAt hTop hPlain.quote hPlain.slash
    refine ⟨hByte, ?_⟩
    rw [flags_getElem? hByte, hStep.1]

theorem topAt_succ_of_hasCode
    {bytes : List UInt8}
    {offset : Nat}
    {b : UInt8}
    (hCode : (ofBytes bytes).HasCode offset b)
    (hPlain : IsPlain b) :
    TopAt bytes (offset + 1) := by
  have hByte :=
    ((hasCode_ofBytes_iff bytes offset b).mp hCode).1
  have hTop := (hasCode_iff_topAt hByte hPlain).mp hCode
  exact topAt_succ hTop hByte hPlain.quote hPlain.slash

------------------------------------------------------------
-- Blanks
------------------------------------------------------------

/-
  What blanks preserve holds of the offset behind them when it
  holds of the offset before them.
-/
theorem skipSpace_induction
    (m : CodeMap)
    {motive : Nat → Prop}
    {start : Nat}
    (hStart : motive start)
    (hBlank :
      ∀ offset b,
        m.byte? offset = some b → isSpace b = true →
          motive offset → motive (offset + 1)) :
    motive (m.skipSpace start) := by
  unfold skipSpace
  generalize hRest : m.bytes.drop start = rest
  induction rest generalizing start with
  | nil => exact hStart
  | cons b rest ih =>
      rw [List.takeWhile_cons]
      split_ifs with hSpace
      · have hByte : m.byte? start = some b := by
          rw [byte?_eq_getElem?, ← Nat.add_zero start,
            ← List.getElem?_drop, hRest,
            List.getElem?_cons_zero]
        have hLater : m.bytes.drop (start + 1) = rest := by
          rw [← List.drop_drop, hRest, List.drop_succ_cons,
            List.drop_zero]
        have hBehind :=
          ih (hBlank start b hByte hSpace hStart) hLater
        rwa [List.length_cons, Nat.add_comm _ 1,
          ← Nat.add_assoc]
      · exact hStart

theorem le_skipSpace
    (m : CodeMap)
    (start : Nat) :
    start ≤ m.skipSpace start :=
  Nat.le_add_right _ _

theorem isSpace_inert
    {b : UInt8}
    (hSpace : isSpace b = true) :
    isQuote b = false ∧ b ≠ slash ∧ b < 128 := by
  have hCases :
      b = 32 ∨ b = 9 ∨ b = 10 ∨ b = 12 ∨ b = 13 := by
    simpa [isSpace, or_assoc] using hSpace
  rcases hCases with rfl | rfl | rfl | rfl | rfl <;> decide

/- The scanner is still at the top level behind blanks. -/
theorem topAt_skipSpace
    {bytes : List UInt8}
    {start : Nat}
    (hTop : TopAt bytes start) :
    TopAt bytes ((ofBytes bytes).skipSpace start) := by
  apply skipSpace_induction (ofBytes bytes) hTop
  intro offset b hByte hSpace hHere
  rw [byte?_eq_getElem?, bytes_ofBytes] at hByte
  have hInert := isSpace_inert hSpace
  exact topAt_succ hHere hByte hInert.1 hInert.2.1

/- A plain byte behind blanks of the top level is code. -/
theorem hasCode_skipSpace
    {bytes : List UInt8}
    {start : Nat}
    {b : UInt8}
    (hTop : TopAt bytes start)
    (hPlain : IsPlain b)
    (hByte :
      (ofBytes bytes).byte? ((ofBytes bytes).skipSpace start) =
        some b) :
    (ofBytes bytes).HasCode ((ofBytes bytes).skipSpace start)
      b := by
  rw [byte?_eq_getElem?, bytes_ofBytes] at hByte
  exact
    (hasCode_iff_topAt hByte hPlain).mpr
      (topAt_skipSpace hTop)

/- A script can be cut behind blanks if it can before them. -/
theorem isBoundary_skipSpace
    {m : CodeMap}
    (hCut : Cuttable m.bytes)
    {start : Nat}
    (hStart : m.isBoundary start = true) :
    m.isBoundary (m.skipSpace start) = true := by
  apply m.skipSpace_induction
    (motive := fun offset => m.isBoundary offset = true) hStart
  intro offset b hByte hSpace _
  exact
    isBoundary_succ_of_ascii hCut hByte
      (isSpace_inert hSpace).2.2

end CodeMap

end Devirt

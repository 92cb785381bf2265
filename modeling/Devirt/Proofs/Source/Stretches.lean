import Devirt.Proofs.Source.Resuming

/-
  Stretches of a script.

  What the scanner makes of some bytes hangs on the state it
  comes to them in, on the bytes before them and on those
  ahead.  A stretch is read with its neighbours in place, so
  stretches that follow each other are read one after the
  other, and each shows in the map of the whole script as it
  has been read.

  Main declarations:
    * `Scanner.Reads`, `Scanner.Reads.append`,
      `Scanner.reads_stateAt`
    * `Scanner.Reads.stateAt_eq`, `CodeMap.getElem?_stretch`
    * `CodeMap.IsLiteral`, `CodeMap.IsAllCode`
-/

------------------------------------------------------------
-- Reading
------------------------------------------------------------

namespace Devirt

namespace Scanner

open CodeMap

/-
  In a state, with bytes before it in reverse order and others
  ahead, a stretch is read as some cells, which leaves another
  state.
-/
inductive Reads :
    State → List UInt8 → List UInt8 → List UInt8 →
      List Cell → State → Prop where
  | nil
      (s : State)
      (before ahead : List UInt8) :
      Reads s before [] ahead [] s
  | cons
      {s t u : State}
      {before bytes ahead : List UInt8}
      {b : UInt8}
      {code : Bool}
      {cells : List Cell}
      (hStep :
        step s before b (bytes ++ ahead) = (code, t))
      (hRest : Reads t (b :: before) bytes ahead cells u) :
      Reads s before (b :: bytes) ahead (⟨b, code⟩ :: cells) u

namespace Reads

variable {s t u : State}
variable {before bytes more ahead : List UInt8}
variable {cells others : List Cell}

/- A single byte. -/
theorem one
    {b : UInt8}
    {code : Bool}
    (hStep : step s before b ahead = (code, t)) :
    Reads s before [b] ahead [⟨b, code⟩] t :=
  .cons hStep (.nil t (b :: before) ahead)

theorem append
    (hFirst : Reads s before bytes (more ++ ahead) cells t)
    (hSecond :
      Reads t (bytes.reverse ++ before) more ahead others u) :
    Reads s before (bytes ++ more) ahead (cells ++ others)
      u := by
  generalize hAhead : more ++ ahead = next at hFirst
  induction hFirst with
  | nil => exact hSecond
  | cons hStep _ ih =>
      subst hAhead
      rw [← List.append_assoc] at hStep
      refine .cons hStep (ih ?_ rfl)
      simpa using hSecond

theorem bytes_eq
    (hReads : Reads s before bytes ahead cells t) :
    cells.map (·.byte) = bytes := by
  induction hReads with
  | nil => rfl
  | cons _ _ ih => rw [List.map_cons, ih]

theorem length_eq
    (hReads : Reads s before bytes ahead cells t) :
    cells.length = bytes.length := by
  rw [← hReads.bytes_eq, List.length_map]

theorem scan_eq
    (hReads : Reads s before bytes ahead cells t) :
    scan s before (bytes ++ ahead) =
      cells ++ scan t (bytes.reverse ++ before) ahead := by
  induction hReads with
  | nil => rfl
  | cons hStep _ ih =>
      rw [List.cons_append, scan_cons, hStep, ih]
      simp

theorem stateFrom_eq
    (hReads : Reads s before bytes ahead cells t) :
    stateFrom s before (bytes ++ ahead) bytes.length = t := by
  induction hReads with
  | nil s before ahead => cases ahead <;> rfl
  | cons hStep _ ih =>
      rw [List.cons_append, List.length_cons, stateFrom, hStep]
      exact ih

end Reads

/- Every stretch is read in some way. -/
theorem exists_reads
    (s : State)
    (before bytes ahead : List UInt8) :
    ∃ cells t, Reads s before bytes ahead cells t := by
  induction bytes generalizing s before with
  | nil => exact ⟨[], s, .nil s before ahead⟩
  | cons b bytes ih =>
      rcases ih (step s before b (bytes ++ ahead)).2 (b :: before)
        with ⟨cells, t, hRest⟩
      exact ⟨_, t, .cons rfl hRest⟩

/- At the top level only slashes can be read as no code. -/
theorem stepTop_isCode
    {b : UInt8}
    (last : Option (List UInt8))
    (before after : List UInt8)
    (hOther : b ≠ slash) :
    (stepTop last before b after).1 = true := by
  simp only [stepTop, beq_eq_false_iff_ne.mpr hOther,
    Bool.false_and, Bool.false_eq_true, if_false]
  split_ifs <;> rfl

/- At the top level only the last significant byte is open. -/
theorem TopAt.exists_eq
    {bytes : List UInt8}
    {offset : Nat}
    (hTop : TopAt bytes offset) :
    ∃ last, stateAt bytes offset = ⟨.top, last⟩ := by
  unfold TopAt at hTop
  rcases hState : stateAt bytes offset with ⟨mode, last⟩
  rw [hState] at hTop
  exact ⟨last, by rw [← hTop]⟩

/- What comes first is read from the start of the script. -/
theorem exists_reads_start
    (before after : List UInt8) :
    ∃ cells,
      Reads State.initial [] before after cells
        (stateAt (before ++ after) before.length) := by
  rcases exists_reads State.initial [] before after with
    ⟨cells, t, hReads⟩
  have hState := hReads.stateFrom_eq
  exact ⟨cells, by rwa [stateAt, hState]⟩

/-
  The stretch behind some bytes of a script, with what follows
  it, is read as the given cells in the state behind them.
-/
def ReadsIn
    (before bytes ahead : List UInt8)
    (cells : List Cell)
    (t : State) : Prop :=
  Reads (stateAt (before ++ (bytes ++ ahead)) before.length)
    before.reverse bytes ahead cells t

/- The state behind a stretch. -/
theorem ReadsIn.stateAt_eq
    {before bytes ahead : List UInt8}
    {cells : List Cell}
    {t : State}
    (hReads : ReadsIn before bytes ahead cells t) :
    stateAt (before ++ (bytes ++ ahead))
      (before.length + bytes.length) = t := by
  rcases exists_reads_start before (bytes ++ ahead) with
    ⟨_, hStart⟩
  have hHere :
      Reads (stateAt (before ++ (bytes ++ ahead)) before.length)
        (before.reverse ++ []) bytes ahead cells t := by
    rw [List.append_nil]
    exact hReads
  have hState := (hStart.append hHere).stateFrom_eq
  rwa [List.append_assoc, List.length_append] at hState

end Scanner

end Devirt

------------------------------------------------------------
-- Stretches of Maps
------------------------------------------------------------

namespace Devirt

open Scanner

namespace CodeMap

variable {before bytes ahead : List UInt8}
variable {cells : List Cell}
variable {t : State}

/- A stretch shows in the map as it has been read. -/
theorem getElem?_stretch
    {index : Nat}
    (hReads : ReadsIn before bytes ahead cells t)
    (hInside : index < bytes.length) :
    (ofBytes (before ++ (bytes ++ ahead))).cells[
      before.length + index]? = cells[index]? := by
  rcases exists_reads_start before (bytes ++ ahead) with
    ⟨front, hStart⟩
  have hCells := hStart.scan_eq
  rw [List.append_nil, hReads.scan_eq] at hCells
  rw [← Array.getElem?_toList, cells_ofBytes, hCells,
    ← hStart.length_eq,
    List.getElem?_append_right (Nat.le_add_right _ _),
    Nat.add_sub_cancel_left, List.getElem?_append_left]
  rwa [hReads.length_eq]

/- At the top level only comments are no code. -/
theorem isCode_of_topAt
    {bytes : List UInt8}
    {offset : Nat}
    {b : UInt8}
    (hTop : TopAt bytes offset)
    (hByte : bytes[offset]? = some b)
    (hOther : b ≠ slash) :
    (ofBytes bytes).isCode offset = true := by
  have hFlag : (stepAt bytes offset b).1 = true := by
    unfold TopAt at hTop
    unfold stepAt step
    rw [hTop]
    exact stepTop_isCode _ _ _ hOther
  have hCode : (ofBytes bytes).HasCode offset b := by
    rw [hasCode_ofBytes_iff, flags_getElem? hByte, hFlag]
    exact ⟨hByte, rfl⟩
  exact hCode.isCode_eq

/- No byte between two offsets is code. -/
def IsLiteral (m : CodeMap) (start stop : Nat) : Prop :=
  ∀ offset,
    start ≤ offset → offset < stop → m.isCode offset = false

/- Every byte between two offsets is code. -/
def IsAllCode (m : CodeMap) (start stop : Nat) : Prop :=
  ∀ offset,
    start ≤ offset → offset < stop → m.isCode offset = true

/- The cells of bytes of which none is code. -/
def literalCells (bytes : List UInt8) : List Cell :=
  bytes.map (Cell.mk · false)

theorem literalCells_append
    (left right : List UInt8) :
    literalCells (left ++ right) =
      literalCells left ++ literalCells right :=
  List.map_append

/- A cell of a stretch stands behind those before it. -/
theorem getElem?_part
    {front part rest : List Cell}
    {index : Nat}
    (hReads :
      ReadsIn before bytes ahead (front ++ (part ++ rest)) t)
    (hInside : index < part.length) :
    (ofBytes (before ++ (bytes ++ ahead))).cells[
      before.length + front.length + index]? = part[index]? := by
  have hLength := Reads.length_eq hReads
  rw [List.length_append, List.length_append] at hLength
  rw [Nat.add_assoc, getElem?_stretch hReads (by omega),
    List.getElem?_append_right (Nat.le_add_right _ _),
    Nat.add_sub_cancel_left, List.getElem?_append_left hInside]

theorem hasCode_part
    {front rest : List Cell}
    {b : UInt8}
    (hReads :
      ReadsIn before bytes ahead (front ++ ⟨b, true⟩ :: rest) t) :
    (ofBytes (before ++ (bytes ++ ahead))).HasCode
      (before.length + front.length) b := by
  have hParts :
      ReadsIn before bytes ahead
        (front ++ ([⟨b, true⟩] ++ rest)) t := hReads
  exact getElem?_part hParts Nat.one_pos

theorem isCode_part
    {front rest : List Cell}
    {part : List UInt8}
    {code : Bool}
    (hReads :
      ReadsIn before bytes ahead
        (front ++ (part.map (Cell.mk · code) ++ rest)) t)
    {offset : Nat}
    (hStart : before.length + front.length ≤ offset)
    (hStop :
      offset < before.length + front.length + part.length) :
    (ofBytes (before ++ (bytes ++ ahead))).isCode offset =
      code := by
  rcases Nat.exists_eq_add_of_le hStart with ⟨index, rfl⟩
  have hInside : index < part.length := by omega
  unfold isCode
  rw [getElem?_part hReads (by simpa using hInside),
    List.getElem?_map, List.getElem?_eq_getElem hInside]
  rfl

theorem isLiteral_part
    {front rest : List Cell}
    {part : List UInt8}
    (hReads :
      ReadsIn before bytes ahead
        (front ++ (literalCells part ++ rest)) t) :
    (ofBytes (before ++ (bytes ++ ahead))).IsLiteral
      (before.length + front.length)
      (before.length + front.length + part.length) :=
  fun _ hStart hStop => isCode_part hReads hStart hStop

end CodeMap

end Devirt

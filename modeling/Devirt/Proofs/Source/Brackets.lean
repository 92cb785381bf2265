import Devirt.Proofs.Source.Scanner

/-
  Searches for brackets.

  Counting that begins at an opening bracket of code never
  meets a closing bracket too early, and what it finds is a
  closing bracket of code.  A closer that is lawful need not
  work anywhere else, and a computation settles when every
  lawful closer brings it to the same end; so a computation
  that settles asks for closing brackets at opening brackets
  of code alone.

  Searches do not look back.  From an offset on, a script can
  be taken for a script of its own, with the flags that it has:
  what is found there is the same, at offsets that are smaller
  by what was cut off.

  Main declarations:
    * `CodeMap.nextCode_eq_some`
    * `CodeMap.matchingClose_of_hasCode`
    * `Lawful`, `strictClose`
    * `Settles`, `Settles.bind`
    * `CodeMap.behind`, `CodeMap.byte?_behind`
    * `CodeMap.nextCode_behind`, `CodeMap.matchingClose_behind`
    * `CodeMap.skipSpace_behind`, `CodeMap.bytesBetween_behind`
-/

------------------------------------------------------------
-- Brackets and Searches
------------------------------------------------------------

namespace Devirt

open Scanner

namespace CodeMap

theorem Bracket.opening_plain
    (k : Bracket) :
    IsPlain k.opening := by
  cases k <;> exact ⟨by decide, by decide, by decide⟩

theorem Bracket.closing_plain
    (k : Bracket) :
    IsPlain k.closing := by
  cases k <;> exact ⟨by decide, by decide, by decide⟩

theorem Bracket.closing_ascii
    (k : Bracket) :
    k.closing < 128 := by
  cases k <;> decide

theorem Bracket.ofOpening?_opening
    (k : Bracket) :
    Bracket.ofOpening? k.opening = some k := by
  cases k <;> rfl

theorem findCode_eq_some
    {needle : UInt8}
    {offset found : Nat}
    {cells : List Cell}
    (hFound : findCode needle offset cells = some found) :
    offset ≤ found ∧
      cells[found - offset]? = some ⟨needle, true⟩ := by
  fun_induction findCode needle offset cells with
  | case1 => simp at hFound
  | case2 offset c rest hHere =>
      have hCell : c.isCode = true ∧ c.byte = needle := by
        simpa using hHere
      have hSame : offset = found := Option.some.inj hFound
      subst found
      rcases c with ⟨b, isCode⟩
      simp_all
  | case3 offset c rest hHere ih =>
      rcases ih hFound with ⟨hAfter, hCell⟩
      refine ⟨by omega, ?_⟩
      rw [getElem?_cons_sub hAfter]
      exact hCell

/- The search for a byte of code finds one. -/
theorem nextCode_eq_some
    {m : CodeMap}
    {start found : Nat}
    {needle : UInt8}
    (hFound : m.nextCode start needle = some found) :
    start ≤ found ∧ m.HasCode found needle := by
  rcases findCode_eq_some hFound with ⟨hAfter, hCell⟩
  refine ⟨hAfter, ?_⟩
  rw [List.getElem?_drop, Nat.add_sub_cancel' hAfter,
    Array.getElem?_toList] at hCell
  exact hCell

------------------------------------------------------------
-- Closing Brackets
------------------------------------------------------------

/-
  With a bracket open, counting goes through; the offset it
  gives is that of a closing bracket.
-/
theorem closeFrom_of_open
    (k : Bracket)
    (offset : Nat)
    (cells : List Cell)
    {depth : Nat}
    (hOpen : 0 < depth) :
    ∃ found,
      closeFrom k offset depth cells = .ok found ∧
        ∀ close ∈ found,
          offset ≤ close ∧
            cells[close - offset]? =
              some ⟨k.closing, true⟩ := by
  have hStep :
      ∀ {offset : Nat} {c : Cell} {rest : List Cell}
        {result : Except Fault (Option Nat)},
        (∃ found,
          result = .ok found ∧
            ∀ close ∈ found,
              offset + 1 ≤ close ∧
                rest[close - (offset + 1)]? =
                  some ⟨k.closing, true⟩) →
          ∃ found,
            result = .ok found ∧
              ∀ close ∈ found,
                offset ≤ close ∧
                  (c :: rest)[close - offset]? =
                    some ⟨k.closing, true⟩ := by
    rintro offset c rest result ⟨found, hResult, hClose⟩
    refine ⟨found, hResult, ?_⟩
    intro close hMember
    rcases hClose close hMember with ⟨hAfter, hCell⟩
    refine ⟨by omega, ?_⟩
    rw [getElem?_cons_sub hAfter]
    exact hCell
  fun_induction closeFrom k offset depth cells with
  | case1 => exact ⟨none, rfl, by simp⟩
  | case2 offset depth c rest hOpening ih =>
      exact hStep (ih (by omega))
  | case3 offset c rest hOpening hClosing =>
      -- the only way to break off, with no bracket open
      exact absurd hOpen (Nat.lt_irrefl 0)
  | case4 offset c rest hOpening hClosing =>
      have hCell : c.isCode = true ∧ c.byte = k.closing := by
        simpa using hClosing
      refine ⟨some offset, rfl, ?_⟩
      rcases c with ⟨b, isCode⟩
      simp_all
  | case5 offset c rest hOpening d hClosing ih =>
      exact hStep (ih (by omega))
  | case6 offset depth c rest hOpening hClosing ih =>
      exact hStep (ih hOpen)

/- Where code stands, the cells from there on begin with it. -/
theorem HasCode.drop_eq
    {m : CodeMap}
    {offset : Nat}
    {b : UInt8}
    (hCode : m.HasCode offset b) :
    m.cells.toList.drop offset =
      ⟨b, true⟩ :: m.cells.toList.drop (offset + 1) := by
  have hInside : offset < m.cells.toList.length := by
    simpa [size] using hCode.lt_size
  rw [List.drop_eq_getElem_cons hInside]
  congr 1
  apply Option.some.inj
  rw [← List.getElem?_eq_getElem hInside,
    Array.getElem?_toList]
  exact hCode

/- Behind an opening bracket of code, one bracket is open. -/
theorem matchingClose_eq_closeFrom
    {m : CodeMap}
    {start : Nat}
    {k : Bracket}
    (hOpening : m.HasCode start k.opening) :
    m.matchingClose start =
      closeFrom k (start + 1) 1
        (m.cells.toList.drop (start + 1)) := by
  simp [matchingClose, hOpening.byte?_eq,
    Bracket.ofOpening?_opening, hOpening.drop_eq, closeFrom]

/-
  From an opening bracket of code on, counting goes through
  and can only give a closing bracket of code behind it.
-/
theorem matchingClose_of_hasCode
    {m : CodeMap}
    {start : Nat}
    {k : Bracket}
    (hOpening : m.HasCode start k.opening) :
    ∃ found,
      m.matchingClose start = .ok found ∧
        ∀ close ∈ found,
          start < close ∧ m.HasCode close k.closing := by
  rcases closeFrom_of_open k (start + 1)
      (m.cells.toList.drop (start + 1)) Nat.one_pos with
    ⟨found, hFound, hClose⟩
  refine
    ⟨found, (matchingClose_eq_closeFrom hOpening).trans hFound,
      ?_⟩
  intro close hMember
  rcases hClose close hMember with ⟨hAfter, hCell⟩
  refine ⟨hAfter, ?_⟩
  rw [List.getElem?_drop, Nat.add_sub_cancel' hAfter,
    Array.getElem?_toList] at hCell
  exact hCell

end CodeMap

end Devirt

------------------------------------------------------------
-- Lawful Closers
------------------------------------------------------------

namespace Devirt

open Scanner CodeMap

/-
  A closer that counts brackets wherever an opening bracket is
  code.
-/
def Lawful (closer : Closer) : Prop :=
  ∀ {m : CodeMap} {start : Nat} {k : Bracket},
    m.HasCode start k.opening →
      closer m start = m.matchingClose start

theorem lawful_matchingClose :
    Lawful matchingClose :=
  fun _ => rfl

/-
  The closer that breaks off unless an opening bracket stands
  at the offset and is code.
-/
def strictClose : Closer := fun m start =>
  match m.byte? start with
  | none => .error .outside
  | some b =>
    if m.isCode start && (Bracket.ofOpening? b).isSome then
      m.matchingClose start
    else
      .error .unbalanced

theorem lawful_strictClose :
    Lawful strictClose := by
  intro m start k hOpening
  simp [strictClose, hOpening.byte?_eq, hOpening.isCode_eq,
    Bracket.ofOpening?_opening]

------------------------------------------------------------
-- Computations that Settle
------------------------------------------------------------

/- From a result of steps in a row, the first one's result. -/
theorem ok_of_bind_ok
    {α β : Type}
    {first : Except Fault α}
    {next : α → Except Fault β}
    {b : β}
    (hResult : (first >>= next) = .ok b) :
    ∃ a, first = .ok a ∧ next a = .ok b := by
  cases first with
  | error fault => cases hResult
  | ok a => exact ⟨a, rfl, hResult⟩

/-
  Under every lawful closer a computation ends without a fault
  and with the same result, of which something holds.
-/
def Settles
    {α : Type}
    (run : Closer → Except Fault α)
    (post : α → Prop) : Prop :=
  ∃ a, post a ∧ ∀ closer, Lawful closer → run closer = .ok a

namespace Settles

variable {α β : Type}
variable {post : α → Prop}

theorem pure
    {a : α}
    (hPost : post a) :
    Settles (fun _ => .ok a) post :=
  ⟨a, hPost, fun _ _ => rfl⟩

/- What asks no closer settles on its result. -/
theorem given
    {result : Except Fault α}
    {a : α}
    (hResult : result = .ok a) :
    Settles (fun _ => result) (· = a) :=
  ⟨a, rfl, fun _ _ => hResult⟩

theorem bind
    {run : Closer → Except Fault α}
    {next : Closer → α → Except Fault β}
    {after : β → Prop}
    (hRun : Settles run post)
    (hNext :
      ∀ a, post a →
        Settles (fun closer => next closer a) after) :
    Settles (fun closer => run closer >>= next closer)
      after := by
  rcases hRun with ⟨a, hPost, hRun⟩
  rcases hNext a hPost with ⟨b, hAfter, hNext⟩
  refine ⟨b, hAfter, ?_⟩
  intro closer hLawful
  calc
    run closer >>= next closer
        = .ok a >>= next closer := by
          rw [hRun closer hLawful]
    _ = .ok b := hNext closer hLawful

/- A closer settles at an opening bracket of code. -/
theorem close
    {m : CodeMap}
    {start : Nat}
    {k : Bracket}
    (hOpening : m.HasCode start k.opening) :
    Settles (fun closer => closer m start) fun found =>
      m.matchingClose start = .ok found ∧
        ∀ close ∈ found,
          start < close ∧ m.HasCode close k.closing := by
  rcases matchingClose_of_hasCode hOpening with
    ⟨found, hFound, hClose⟩
  refine ⟨found, ⟨hFound, hClose⟩, ?_⟩
  intro closer hLawful
  exact (hLawful hOpening).trans hFound

/-
  A computation that settles does not break off under the
  strict closer, and runs as it does under the usual one.
-/
theorem strict_eq_usual
    {run : Closer → Except Fault α}
    (hRun : Settles run post) :
    ∃ a,
      post a ∧ run strictClose = .ok a ∧
        run matchingClose = .ok a := by
  rcases hRun with ⟨a, hPost, hRun⟩
  exact
    ⟨a, hPost, hRun strictClose lawful_strictClose,
      hRun matchingClose lawful_matchingClose⟩

end Settles

end Devirt

------------------------------------------------------------
-- The Rest of a Script
------------------------------------------------------------

namespace Devirt

namespace CodeMap

/- A script from an offset on, with the flags of its bytes. -/
def behind (m : CodeMap) (start : Nat) : CodeMap :=
  ⟨(m.cells.toList.drop start).toArray⟩

variable (m : CodeMap)
variable (start : Nat)

@[simp]
theorem toList_cells_behind :
    (m.behind start).cells.toList = m.cells.toList.drop start :=
  rfl

@[simp]
theorem bytes_behind :
    (m.behind start).bytes = m.bytes.drop start :=
  List.map_drop

@[simp]
theorem masked_behind :
    (m.behind start).masked = m.masked.drop start :=
  List.map_drop

@[simp]
theorem size_behind :
    (m.behind start).size = m.size - start := by
  simp [size, behind]

theorem byte?_behind
    (k : Nat) :
    (m.behind start).byte? k = m.byte? (start + k) := by
  rw [byte?_eq_getElem?, byte?_eq_getElem?, bytes_behind,
    List.getElem?_drop]

theorem byteAt_behind
    (k : Nat) :
    (m.behind start).byteAt k = m.byteAt (start + k) := by
  rw [byteAt, byteAt, byte?_behind]

------------------------------------------------------------
-- Searches in the Rest
------------------------------------------------------------

theorem findCode_moved
    (needle : UInt8)
    (k : Nat)
    (cells : List Cell) :
    findCode needle (start + k) cells =
      (findCode needle k cells).map (start + ·) := by
  induction cells generalizing k with
  | nil => rfl
  | cons c rest ih =>
      unfold findCode
      split_ifs
      · rfl
      · exact ih (k + 1)

theorem nextCode_behind
    (needle : UInt8)
    (k : Nat) :
    m.nextCode (start + k) needle =
      ((m.behind start).nextCode k needle).map (start + ·) := by
  rw [nextCode, nextCode, findCode_moved, toList_cells_behind,
    List.drop_drop]

theorem closeFrom_moved
    (kind : Bracket)
    (k depth : Nat)
    (cells : List Cell) :
    closeFrom kind (start + k) depth cells =
      Option.map (start + ·) <$> closeFrom kind k depth cells := by
  induction cells generalizing k depth with
  | nil => rfl
  | cons c rest ih =>
      unfold closeFrom
      split_ifs
      · exact ih (k + 1) (depth + 1)
      · rcases depth with _ | _ | depth
        · rfl
        · rfl
        · exact ih (k + 1) (depth + 1)
      · exact ih (k + 1) depth

theorem matchingClose_behind
    (k : Nat) :
    m.matchingClose (start + k) =
      Option.map (start + ·) <$>
        (m.behind start).matchingClose k := by
  unfold matchingClose
  rw [byte?_behind]
  cases m.byte? (start + k) with
  | none => rfl
  | some b =>
      dsimp only
      cases Bracket.ofOpening? b with
      | none => rfl
      | some kind =>
          dsimp only
          rw [closeFrom_moved, toList_cells_behind,
            List.drop_drop]

theorem skipSpace_behind
    (k : Nat) :
    m.skipSpace (start + k) =
      start + (m.behind start).skipSpace k := by
  rw [skipSpace, skipSpace, bytes_behind, List.drop_drop,
    Nat.add_assoc]

theorem bytesBetween_behind
    (hInside : start ≤ m.size)
    (first last : Nat) :
    m.bytesBetween (start + first) (start + last) =
      (m.behind start).bytesBetween first last := by
  have hOrder :
      (start + first ≤ start + last ∧ start + last ≤ m.size) ↔
        (first ≤ last ∧ last ≤ m.size - start) := by
    omega
  have hLength :
      start + last - (start + first) = last - first := by
    omega
  simp only [bytesBetween, bytes_behind, size_behind,
    Bool.and_eq_true, decide_eq_true_eq, hOrder, hLength,
    List.drop_drop]

end CodeMap

end Devirt

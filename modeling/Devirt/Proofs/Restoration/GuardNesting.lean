import Devirt.Proofs.Restoration.Guards
import Devirt.Proofs.Restoration.Unwrapping
import Devirt.Proofs.Source.Removal

/-
  Guards and the nesting of brackets.

  In a script whose brackets are well nested, a call that begins
  with a round bracket extends over pairs of brackets, blanks
  and a semicolon, and is well nested.  Any other call is taken
  to begin with a function whose body is in the first braces, so
  brackets that are open before these stay open.  A default for
  a parameter can have such braces.  If no guard does, what the
  guards leave is well nested.

  Main declarations:
    * `Wrapper.Extent.nested_function`,
      `Wrapper.Extent.nested_call`
    * `Wrapper.nested_iff`, `Wrapper.cutsOut_removal`
    * `stripGuards_nesting`, `defaultGuard_unnested`
-/

------------------------------------------------------------
-- Extents
------------------------------------------------------------

namespace Devirt

open Scanner CodeMap

namespace Wrapper

/- Without a bracket a function ends behind its body. -/
theorem functionEnd?_inner
    {m : CodeMap}
    {start bodyClose stop : Nat}
    {isBracketed : Bool}
    (hEnd :
      functionEnd? matchingClose m start bodyClose =
        .ok (some (stop, isBracketed)))
    (hOther : m.byte? start ≠ some (byte '(')) :
    stop = bodyClose + 1 := by
  rcases ok_of_bind_ok hEnd with ⟨b, hByte, hEnd⟩
  have hRound : (b == byte '(') = false := by
    rw [beq_eq_false_iff_ne]
    rintro rfl
    unfold byteAt at hByte
    split at hByte
    · next hHere =>
        cases hByte
        exact hOther hHere
    · cases hByte
  rw [hRound] at hEnd
  cases hEnd
  rfl

/- A semicolon leaves the top level where it is. -/
theorem afterSemicolon_spec
    {code : String}
    {last : Nat}
    (hTop : TopAt (bytesOf code) last) :
    Nested Set.univ
        ((ofText code).span last
          (afterSemicolon (ofText code) last)) ∧
      TopAt (bytesOf code)
        (afterSemicolon (ofText code) last) := by
  unfold afterSemicolon
  dsimp only
  split_ifs with hSemicolon
  · have hByte :
        (ofText code).byte? ((ofText code).skipSpace last) =
          some (byte ';') :=
      eq_of_beq hSemicolon
    have hFree : IsBracketFree (byte ';') := by
      intro k
      cases k <;> decide
    have hBehind : TopAt (bytesOf code) _ := topAt_skipSpace hTop
    refine
      ⟨nested_span_succ (nested_span_skipSpace _ last)
        (le_skipSpace _ last) hByte hFree, ?_⟩
    rw [byte?_eq_getElem?, bytes_ofText] at hByte
    exact topAt_succ hBehind hByte (by decide) (by decide)
  · rw [span_self]
    exact ⟨.nil, hTop⟩

/-
  Either a call begins with a round bracket, or all brackets
  before the first braces of code are closed there.
-/
def OpensCleanly (m : CodeMap) (w : Wrapper) : Prop :=
  m.byte? w.start = some (byte '(') ∨
    Nested Set.univ (m.span w.start w.bodyOpen)

namespace Extent

variable {code : String}
variable {w : Wrapper}
variable {stop last : Nat}
variable {isBracketed : Bool}

/- The function and its call end behind brackets of code. -/
theorem behind
    (hExtent : Extent (ofText code) w stop last isBracketed)
    (hStart :
      (ofText code).byte? w.start = some (byte '(') →
        (ofText code).HasCode w.start (byte '(')) :
    (w.bodyClose < stop ∧ Behind (ofText code) stop) ∧
      Behind (ofText code) last := by
  rcases nextCode_eq_some hExtent.opens with ⟨hAfter, hOpen⟩
  rcases matchingClose_of_hasCode (k := .curly) hOpen with
    ⟨found, hFound, hClose⟩
  have hSame := Except.ok.inj (hFound.symm.trans hExtent.closes)
  have hBody := (hClose w.bodyClose hSame).2
  have hInside : w.start < (ofText code).size :=
    Nat.lt_of_le_of_lt hAfter hOpen.lt_size
  rcases (functionEnd?_settles hInside hStart hBody).strict_eq_usual
    with ⟨end?, hEnd, -, hUsual⟩
  have hFunction := Except.ok.inj (hUsual.symm.trans hExtent.function)
  have hStop := hEnd (stop, isBracketed) hFunction
  rcases (callEnd?_settles isBracketed hStop.1
      hStop.2).strict_eq_usual with ⟨call?, hLast, -, hUsualCall⟩
  have hCall := Except.ok.inj (hUsualCall.symm.trans hExtent.call)
  exact ⟨hStop, (hLast last hCall).2⟩

/-
  What a function extends over is well nested if it begins with
  a round bracket, and otherwise just if what stands before its
  body is.
-/
theorem nested_function
    (hExtent : Extent (ofText code) w stop last isBracketed)
    (hNested : Nested Set.univ (ofText code).cells.toList)
    (hStart :
      (ofText code).byte? w.start = some (byte '(') →
        (ofText code).HasCode w.start (byte '(')) :
    w.start ≤ stop ∧
      (Nested Set.univ ((ofText code).span w.start stop) ↔
        (ofText code).byte? w.start = some (byte '(') ∨
          Nested Set.univ
            ((ofText code).span w.start w.bodyOpen)) := by
  rcases nextCode_eq_some hExtent.opens with ⟨hAfter, hOpen⟩
  by_cases hRound : (ofText code).byte? w.start = some (byte '(')
  · rcases functionEnd?_outer hExtent.function hRound with
      ⟨close, hClose, -, rfl⟩
    rcases nested_span_of_matchingClose (k := .round) hNested
        (hStart hRound) hClose with ⟨hOrder, hSpan⟩
    exact ⟨hOrder, iff_of_true hSpan (Or.inl hRound)⟩
  · have hStop := functionEnd?_inner hExtent.function hRound
    rcases nested_span_of_matchingClose (k := .curly) hNested hOpen
        hExtent.closes with ⟨hOrder, hBody⟩
    rw [← hStop] at hOrder hBody
    have hCut :=
      hBody.cut_iff ((ofText code).span w.start w.bodyOpen) []
    rw [List.append_nil, List.append_nil,
      ← span_append _ hAfter hOrder] at hCut
    rw [hCut]
    exact
      ⟨Nat.le_trans hAfter hOrder, by simp [hRound]⟩

/- Behind a function there is nothing but blanks and a call. -/
theorem nested_call
    (hExtent : Extent (ofText code) w stop last isBracketed)
    (hNested : Nested Set.univ (ofText code).cells.toList)
    (hBehind : Behind (ofText code) stop) :
    Nested Set.univ ((ofText code).span stop last) := by
  have hCall := hExtent.call
  unfold callEnd? at hCall
  dsimp only at hCall
  split_ifs at hCall with hRound hBracketed
  · have hOpen :
        (ofText code).HasCode ((ofText code).skipSpace stop)
          (byte '(') :=
      hasCode_skipSpace hBehind.topAt Bracket.round.opening_plain
        (eq_of_beq hRound)
    rcases ok_of_bind_ok hCall with ⟨_ | close, hClose, hCall⟩
    · cases hCall
    · cases hCall
      rcases nested_span_of_matchingClose (k := .round) hNested
          hOpen hClose with ⟨hOrder, hPair⟩
      rw [span_append _ (le_skipSpace _ stop) hOrder]
      exact (nested_span_skipSpace _ stop).append hPair
  · rcases ok_of_bind_ok hCall with ⟨tail, -, hCall⟩
    split_ifs at hCall
    · cases hCall
      rw [span_self]
      exact .nil
    · cases hCall
  · cases hCall

/- The scanner comes to what follows a call at the top level. -/
theorem topAt_stop
    (hExtent : Extent (ofText code) w stop last isBracketed)
    (hStart :
      (ofText code).byte? w.start = some (byte '(') →
        (ofText code).HasCode w.start (byte '(')) :
    TopAt (bytesOf code) w.stop := by
  rw [hExtent.stop_eq]
  exact (afterSemicolon_spec (hExtent.behind hStart).2.topAt).2

end Extent

/-
  What a call extends over is well nested if it begins with a
  round bracket, and otherwise just if what stands before the
  first braces of code is.
-/
theorem nested_iff
    {code : String}
    {start : Nat}
    {w : Wrapper}
    (hNested : Nested Set.univ (ofText code).cells.toList)
    (hStart :
      (ofText code).byte? start = some (byte '(') →
        (ofText code).HasCode start (byte '('))
    (hCall : at? matchingClose (ofText code) start = .ok (some w)) :
    Nested Set.univ ((ofText code).span w.start w.stop) ↔
      OpensCleanly (ofText code) w := by
  rcases at?_extent hCall with
    ⟨rfl, stop, last, isBracketed, hExtent⟩
  rcases hExtent.behind hStart with ⟨⟨-, hStop⟩, hLast⟩
  rcases hExtent.nested_function hNested hStart with
    ⟨hOrder, hFunction⟩
  have hTail := hExtent.nested_call hNested hStop
  have hSemicolon := (afterSemicolon_spec hLast.topAt).1
  have hLonger := callEnd?_le hExtent.call
  have hFinish := le_afterSemicolon (ofText code) last
  rw [← hExtent.stop_eq] at hSemicolon hFinish
  have hParts :
      (ofText code).span w.start w.stop =
        (ofText code).span w.start stop ++
          (((ofText code).span stop last ++
            (ofText code).span last w.stop) ++ []) := by
    rw [List.append_nil, ← span_append _ hLonger hFinish,
      ← span_append _ hOrder (Nat.le_trans hLonger hFinish)]
  rw [hParts, (hTail.append hSemicolon).cut_iff, List.append_nil]
  exact hFunction

------------------------------------------------------------
-- Scripts without Guards
------------------------------------------------------------

/- The byte of code at which a guard begins is a bracket. -/
theorem opens_of_mark
    {m : CodeMap}
    {start : Nat}
    {mark : Char}
    (hCode : m.HasCode start (byte mark))
    (hRound : m.byte? start = some (byte '(')) :
    m.HasCode start (byte '(') := by
  rw [hCode.byte?_eq] at hRound
  rwa [Option.some.inj hRound] at hCode

/- Guards begin with a mark of code and end at the top level. -/
theorem cutsOut_removal
    {code : String}
    {last : Nat}
    {guards : List Wrapper}
    {w : Wrapper}
    (hGuards :
      guardsFrom matchingClose (ofText code) last
          (beginning.all (ofText code).masked) =
        .ok guards)
    (hGuard : w ∈ guards) :
    CutsOut (bytesOf code) (removal w) ∧
      (Nested Set.univ (ofText code).cells.toList →
        (Nested Set.univ ((ofText code).span w.start w.stop) ↔
          OpensCleanly (ofText code) w)) := by
  rcases (mem_guards_iff hGuards w).mp hGuard with
    ⟨⟨one, hOne, hSame⟩, hTaken, -⟩
  rcases hasCode_mark hOne with ⟨mark, hMark, hCode⟩
  have hCall := hTaken.call
  rw [← hSame] at hCall
  have hStart := opens_of_mark hCode
  rcases at?_extent hCall with ⟨-, stop, last, _, hExtent⟩
  have hBoundary := (encloses_of_call hOne hCall).stop_boundary
  have hInside : w.stop ≤ (bytesOf code).length := by
    rw [← bytes_ofText, length_bytes]
    exact le_size_of_isBoundary hBoundary
  have hMarks :
      ∀ mark ∈ ['(', '!'],
        mark.toNat < 128 ∧ mark ∉ '\n' :: literalMarks ∧
          byte mark ≠ asterisk := by
    rw [List.forall_mem_cons, List.forall_mem_singleton]
    decide
  rcases hMarks mark hMark with ⟨hAscii, hPlain, hOther⟩
  rw [hSame] at hCode hStart
  exact
    ⟨⟨rfl, ⟨byte mark, hCode, plain_of_char hAscii hPlain, hOther⟩,
        hInside, hExtent.topAt_stop hStart⟩,
      fun hNested => nested_iff hNested hStart hTaken.call⟩

end Wrapper

/-
  In a script with well nested brackets, what a call extends
  over is well nested just if it begins with a round bracket or
  nothing is open before the first braces.  If this is so for
  all guards, the cells that they leave are well nested, and if
  no slash is code, the scanner finds these in the result.
-/
theorem stripGuards_nesting
    (code : String)
    (hNested : Nested Set.univ (ofText code).cells.toList) :
    (∀ start w,
      ((ofText code).byte? start = some (byte '(') →
          (ofText code).HasCode start (byte '(')) →
        Wrapper.at? matchingClose (ofText code) start =
            .ok (some w) →
          (Nested Set.univ ((ofText code).span w.start w.stop) ↔
            Wrapper.OpensCleanly (ofText code) w)) ∧
      ∃ (guards : List Wrapper) (stripped : String),
        Wrapper.stripGuards code =
            .ok (stripped, guards.length) ∧
          (ofText code).applyEdits
                (guards.map Wrapper.removal) =
              .ok stripped ∧
            ((∀ w ∈ guards, Wrapper.OpensCleanly (ofText code) w) →
              Nested Set.univ
                  ((ofText code).remaining 0
                    (guards.map Wrapper.removal)) ∧
                (Undivided (ofText code).cells.toList →
                  Nested Set.univ
                    (ofText stripped).cells.toList)) := by
  refine
    ⟨fun start w hStart hCall =>
      Wrapper.nested_iff hNested hStart hCall, ?_⟩
  rcases Wrapper.stripGuards_eq code with
    ⟨guards, stripped, hGuards, hOrder, hStripped, hEdited⟩
  refine ⟨guards, stripped, hStripped, hEdited, ?_⟩
  intro hContains
  have hParts :
      ∀ e ∈ guards.map Wrapper.removal,
        Nested Set.univ ((ofText code).span e.start e.stop) := by
    rw [List.forall_mem_map]
    intro w hGuard
    exact
      ((Wrapper.cutsOut_removal hGuards hGuard).2 hNested).mpr
        (hContains w hGuard)
  have hRemaining :=
    nested_remaining [] hOrder hParts hNested
  refine ⟨hRemaining, ?_⟩
  intro hCode
  have hCuts :
      ∀ e ∈ guards.map Wrapper.removal,
        CutsOut (bytesOf code) e := by
    rw [List.forall_mem_map]
    exact fun w hGuard => (Wrapper.cutsOut_removal hGuards hGuard).1
  rw [cells_of_removal hCuts hCode hEdited]
  exact hRemaining

/- A guard without parameters, and one with a default for one. -/
def plainGuard : String :=
  "!function()\x7bdebugger\x7d();a(b[c]);d(e)"

def defaultGuard : String :=
  "!function(a=function()\x7bdebugger\x7d())\x7bb(a);c(a);d(a);" ++
    "e(a);f(a);g(a)\x7d()"

/- Nothing is open before the body of the first one. -/
theorem plainGuard_nested :
    Nested Set.univ (ofText plainGuard).cells.toList ∧
      Wrapper.at? matchingClose (ofText plainGuard) 0 =
          .ok (some ⟨0, 24, 11, 20⟩) ∧
        Nested Set.univ ((ofText plainGuard).span 0 24) := by
  have hNested :
      Nested Set.univ (ofText plainGuard).cells.toList := by
    decide +kernel
  have hCall :
      Wrapper.at? matchingClose (ofText plainGuard) 0 =
        .ok (some ⟨0, 24, 11, 20⟩) := by
    decide +kernel
  have hSpan :=
    (stripGuards_nesting plainGuard hNested).1 0 ⟨0, 24, 11, 20⟩
      (fun hRound => absurd hRound (by decide +kernel)) hCall
  exact
    ⟨hNested, hCall, hSpan.mpr (Or.inr (by decide +kernel))⟩

/- The other one is cut off in its list of parameters. -/
theorem defaultGuard_unnested :
    Nested Set.univ (ofText defaultGuard).cells.toList ∧
      Wrapper.at? matchingClose (ofText defaultGuard) 0 =
          .ok (some ⟨0, 34, 22, 31⟩) ∧
        ¬ Nested Set.univ ((ofText defaultGuard).span 0 34) ∧
          Wrapper.stripGuards defaultGuard =
              .ok
                (")\x7bb(a);c(a);d(a);e(a);f(a);g(a)\x7d()", 1) ∧
            ¬ Nested Set.univ
                (ofText
                  (")\x7bb(a);c(a);d(a);" ++
                    "e(a);f(a);g(a)\x7d()")).cells.toList := by
  refine ⟨?_, ?_, ?_, ?_, ?_⟩ <;> decide +kernel

end Devirt

import Devirt.Proofs.Pattern.Passages
import Devirt.Proofs.Source.Ascii
import Devirt.Proofs.Source.Recoding

/-
  Rules that leave literals alone.

  A cautious rule keeps the ends of a match and changes what is
  between them, which begins with a plain character and holds
  neither quotes nor slashes.  Where everything of the match is
  code, such a change is a recoding, and matches follow each
  other without overlap, so the edits of the rule are one.

  Main declarations:
    * `literalMarks`, `Rule.Reshapes`, `Rule.Cautious`
    * `Rule.mem_edits`, `Rule.RecodesFrom`
    * `Recoding`, `Rule.Cautious.apply_eq`,
      `Rule.Cautious.edited_recodes`
-/

------------------------------------------------------------
-- Cautious Rules
------------------------------------------------------------

namespace Devirt

open Scanner Pattern

/- The characters that can begin and end literals. -/
def literalMarks : List Char := ['"', '\'', '`', '/']

/- Characters that may come in place of code. -/
def IsHarmless (cs : List Char) : Prop :=
  ∀ c ∈ cs, c.toNat < 128 ∧ c ∉ literalMarks

instance (cs : List Char) : Decidable (IsHarmless cs) :=
  List.decidableBAll _ cs

theorem inert_of_char
    {c : Char}
    (hAscii : c.toNat < 128)
    (hMarks : c ∉ literalMarks) :
    IsInert (byte c) := by
  have hOther :
      ∀ mark ∈ literalMarks, byte c ≠ byte mark := by
    intro mark hMark hSame
    have hSmall :
        ∀ mark ∈ literalMarks, mark.toNat < 128 := by
      simp [literalMarks]
    have hChar := byte_injective hAscii (hSmall mark hMark) hSame
    exact hMarks (hChar ▸ hMark)
  have hDouble := hOther '"' (by decide)
  have hSingle := hOther '\'' (by decide)
  have hBack := hOther '`' (by decide)
  refine ⟨?_, hOther '/' (by decide)⟩
  simp [isQuote, quoteDouble, quoteSingle, backtick, hDouble,
    hSingle, hBack]

theorem plain_of_char
    {c : Char}
    (hAscii : c.toNat < 128)
    (hMarks : c ∉ '\n' :: literalMarks) :
    IsPlain (byte c) := by
  have hInert :=
    inert_of_char hAscii
      fun hMark => hMarks (List.mem_cons_of_mem _ hMark)
  refine ⟨hInert.quote, hInert.slash, ?_⟩
  intro hFeed
  have hSame : c = '\n' :=
    byte_injective hAscii (by decide) hFeed
  exact hMarks (hSame ▸ List.mem_cons_self)

namespace Rule

/-
  The replacement of a match keeps its ends.  What is between
  them begins with a plain character, and neither it nor what
  comes in its place marks a literal.
-/
def Reshapes
    (text : List Char)
    (found : Match)
    (replacement : List Char) : Prop :=
  ∃ lead first old new tail,
    part text found.start found.stop =
        lead ++ (first :: old ++ tail) ∧
      replacement = lead ++ (new ++ tail) ∧
        first ∉ '\n' :: literalMarks ∧
          (∀ c ∈ old, c ∉ literalMarks) ∧ IsHarmless new

/- Every replacement that a rule makes reshapes its match. -/
def Cautious (r : Rule) : Prop :=
  ∀ {text : List Char} {found : Match} {here there : Place}
    {replacement : List Char},
    (∀ c ∈ text, c.toNat < 128) →
      Located r.pattern text found here there →
        r.replace text found = some replacement →
          Reshapes text found replacement

theorem part_ascii
    {text : List Char}
    (start stop : Nat)
    (hText : ∀ c ∈ text, c.toNat < 128) :
    ∀ c ∈ part text start stop, c.toNat < 128 := by
  intro c hMember
  exact
    hText c (List.mem_of_mem_drop (List.mem_of_mem_take hMember))

theorem Reshapes.ascii
    {text replacement : List Char}
    {found : Match}
    (hText : ∀ c ∈ text, c.toNat < 128)
    (hReshapes : Reshapes text found replacement) :
    ∀ c ∈ replacement, c.toNat < 128 := by
  have hPart := part_ascii found.start found.stop hText
  rcases hReshapes with
    ⟨lead, first, old, new, tail, hOldText, rfl, -, -, hNew⟩
  rw [hOldText] at hPart
  simp only [List.mem_append, List.mem_cons, or_imp, forall_and,
    forall_eq] at hPart ⊢
  exact
    ⟨hPart.1, fun c hMember => (hNew c hMember).1, hPart.2.2⟩

/- A match that is reshaped is recoded. -/
theorem Reshapes.recodes
    {text replacement : List Char}
    {found : Match}
    {cells : List Cell}
    {out : List UInt8}
    (hText : ∀ c ∈ text, c.toNat < 128)
    (hReshapes : Reshapes text found replacement)
    (hRest : CodeMap.Recodes cells out) :
    CodeMap.Recodes
      (CodeMap.codeCells
        ((part text found.start found.stop).map byte) ++ cells)
      (bytesOf (String.ofList replacement) ++ out) := by
  have hPart := part_ascii found.start found.stop hText
  have hSmall := hReshapes.ascii hText
  rcases hReshapes with
    ⟨lead, first, old, new, tail, hOldText, rfl, hFirst, hOld,
      hNew⟩
  rw [hOldText] at hPart ⊢
  simp only [List.mem_append, List.mem_cons, or_imp,
    forall_and, forall_eq] at hPart
  rcases hPart with ⟨-, ⟨hFirstSmall, hOldSmall⟩, -⟩
  have hKept :
      CodeMap.Recodes
        (CodeMap.codeCells (tail.map byte) ++ cells)
        (tail.map byte ++ out) := by
    have hAll :=
      hRest.keepAll (CodeMap.codeCells (tail.map byte))
    rwa [CodeMap.codeCells_bytes] at hAll
  have hChanged :
      CodeMap.Recodes
        (CodeMap.codeCells (byte first :: old.map byte) ++
          (CodeMap.codeCells (tail.map byte) ++ cells))
        (new.map byte ++ (tail.map byte ++ out)) := by
    refine
      .change (plain_of_char hFirstSmall hFirst) ?_ ?_ ?_ hKept
    · intro b hByte
      rcases List.mem_map.mp hByte with ⟨c, hMember, rfl⟩
      exact inert_of_char (hOldSmall c hMember) (hOld c hMember)
    · intro b hByte
      rcases List.mem_map.mp hByte with ⟨c, hMember, rfl⟩
      exact
        inert_of_char (hNew c hMember).1 (hNew c hMember).2
    · intro b hByte
      rcases List.mem_map.mp hByte with ⟨c, hMember, rfl⟩
      exact byte_ascii (hNew c hMember).1
  have hAll :=
    hChanged.keepAll (CodeMap.codeCells (lead.map byte))
  rw [CodeMap.codeCells_bytes] at hAll
  rw [bytesOf_ofList hSmall, List.map_append, List.map_append,
    List.map_append, List.map_append, List.map_cons,
    CodeMap.codeCells_append, CodeMap.codeCells_append]
  simpa using hAll

end Rule

end Devirt

------------------------------------------------------------
-- Edits
------------------------------------------------------------

namespace Devirt

open Scanner Pattern

namespace Rule

/- The edit that a rule makes at a match, if any. -/
def edit?
    (r : Rule)
    (m : CodeMap)
    (found : Match) :
    Option Edit :=
  if m.isCodeBetween found.start found.stop then
    (r.replace m.masked found).map fun cs =>
      ⟨found.start, found.stop, String.ofList cs⟩
  else
    none

theorem edits_eq_filterMap
    (r : Rule)
    (m : CodeMap) :
    r.edits m = (r.pattern.all m.masked).filterMap (r.edit? m) :=
  rfl

/- Every edit comes from a match that is all code. -/
theorem mem_edits
    {r : Rule}
    {m : CodeMap}
    {e : Edit}
    (hEdit : e ∈ r.edits m) :
    ∃ found here there replacement,
      Located r.pattern m.masked found here there ∧
        m.isCodeBetween found.start found.stop = true ∧
          r.replace m.masked found = some replacement ∧
            e = ⟨found.start, found.stop,
              String.ofList replacement⟩ := by
  rw [edits_eq_filterMap] at hEdit
  rcases List.mem_filterMap.mp hEdit with ⟨found, hFound, hSome⟩
  rcases all_located hFound with ⟨here, there, hLocated⟩
  unfold edit? at hSome
  split_ifs at hSome with hCode
  rcases Option.map_eq_some_iff.mp hSome with
    ⟨replacement, hReplace, rfl⟩
  exact
    ⟨found, here, there, replacement, hLocated, hCode, hReplace,
      rfl⟩

/-
  Edits from an offset on are made: they are in order, cut the
  script between characters, and recode its cells.
-/
structure RecodesFrom
    (m : CodeMap)
    (offset : Nat)
    (edits : List Edit) : Prop where
  inOrder : CodeMap.inOrder offset edits = true
  isWhole : ∀ e ∈ edits, m.isWhole e = true
  recodes :
    CodeMap.Recodes (m.cells.toList.drop offset)
      (CodeMap.editedFrom offset (m.bytes.drop offset) edits)

theorem recodesFrom_nil
    (m : CodeMap)
    (offset : Nat) :
    RecodesFrom m offset [] :=
  { inOrder := rfl
    isWhole := by simp
    recodes := by
      have hAll :=
        CodeMap.Recodes.done.keepAll (m.cells.toList.drop offset)
      rw [List.append_nil, List.append_nil, List.map_drop]
        at hAll
      exact hAll }

/- What is left falls apart at two later offsets. -/
theorem drop_eq_parts
    {α : Type}
    (items : List α)
    {offset start stop : Nat}
    (hStart : offset ≤ start)
    (hStop : start ≤ stop) :
    items.drop offset =
      (items.drop offset).take (start - offset) ++
        ((items.drop start).take (stop - start) ++
          items.drop stop) := by
  have hFirst :=
    List.take_append_drop (start - offset) (items.drop offset)
  have hSecond :=
    List.take_append_drop (stop - start) (items.drop start)
  rw [List.drop_drop, Nat.add_sub_cancel' hStart] at hFirst
  rw [List.drop_drop, Nat.add_sub_cancel' hStop] at hSecond
  rw [hSecond, hFirst]

/- One more edit, before the others. -/
theorem RecodesFrom.cons
    {bytes : List UInt8}
    {found : Match}
    {offset : Nat}
    {replacement : List Char}
    {later : List Edit}
    (hAscii : IsAscii bytes)
    (hAfter : offset ≤ found.start)
    (hOrder : found.start ≤ found.stop)
    (hInside : found.stop ≤ (CodeMap.ofBytes bytes).size)
    (hCode :
      (CodeMap.ofBytes bytes).isCodeBetween found.start
        found.stop = true)
    (hReshapes :
      Reshapes (CodeMap.ofBytes bytes).masked found replacement)
    (hLater :
      RecodesFrom (CodeMap.ofBytes bytes) found.stop later) :
    RecodesFrom (CodeMap.ofBytes bytes) offset
      (⟨found.start, found.stop, String.ofList replacement⟩ ::
        later) := by
  refine ⟨?_, ?_, ?_⟩
  · simp [CodeMap.inOrder, hAfter, hOrder, hLater.inOrder]
  · refine List.forall_mem_cons.mpr ⟨?_, hLater.isWhole⟩
    have hStart :=
      CodeMap.isBoundary_of_isAscii hAscii
        (Nat.le_trans hOrder hInside)
    have hStop := CodeMap.isBoundary_of_isAscii hAscii hInside
    simp [CodeMap.isWhole, hStart, hStop]
  · have hChanged :=
      hReshapes.recodes (CodeMap.masked_ascii hAscii)
        hLater.recodes
    have hAll :=
      hChanged.keepAll
        (((CodeMap.ofBytes bytes).cells.toList.drop
          offset).take (found.start - offset))
    rw [← CodeMap.cellsBetween_eq_part hAscii hCode,
      ← drop_eq_parts _ hAfter hOrder, List.map_take,
      List.map_drop] at hAll
    have hSkip :
        offset + (found.stop - offset) = found.stop := by
      omega
    rw [CodeMap.editedFrom, List.drop_drop, hSkip,
      List.append_assoc]
    exact hAll

/-
  The edits of matches that follow each other: a match without
  an edit is passed over, so the offset is not always the end
  of the match before.
-/
theorem Cautious.recodesFrom
    {r : Rule}
    {bytes : List UInt8}
    (hRule : r.Cautious)
    (hAscii : IsAscii bytes)
    (found : List Match)
    {offset : Nat}
    (hLined :
      Lined r.pattern (CodeMap.ofBytes bytes).masked offset
        found) :
    RecodesFrom (CodeMap.ofBytes bytes) offset
      (found.filterMap (r.edit? (CodeMap.ofBytes bytes))) := by
  induction found generalizing offset with
  | nil => exact recodesFrom_nil _ offset
  | cons first later ih =>
      cases hLined with
      | @cons _ _ _ here there hAfter hLocated hLater =>
          have hOrder := hLocated.start_le_stop
          have hSkip :=
            ih (hLater.weaken (Nat.le_trans hAfter hOrder))
          cases hEdit :
              r.edit? (CodeMap.ofBytes bytes) first with
          | none =>
              rw [List.filterMap_cons_none hEdit]
              exact hSkip
          | some edit =>
              rw [List.filterMap_cons_some hEdit]
              unfold edit? at hEdit
              split_ifs at hEdit with hCode
              rcases Option.map_eq_some_iff.mp hEdit with
                ⟨replacement, hReplace, rfl⟩
              have hThere :=
                hLocated.leads.onText hLocated.onText
              have hInside :
                  first.stop ≤
                    (CodeMap.ofBytes bytes).size := by
                rw [hLocated.stop_eq]
                simpa [CodeMap.masked, CodeMap.size] using
                  hThere.inside
              exact
                .cons hAscii hAfter hOrder hInside hCode
                  (hRule (CodeMap.masked_ascii hAscii)
                    hLocated hReplace)
                  (ih hLater)

end Rule

/- A script is a recoding of another. -/
def Recoding (code next : String) : Prop :=
  CodeMap.Recodes (CodeMap.ofText code).cells.toList
    (bytesOf next)

/- The edits of a cautious rule can be made in ASCII scripts. -/
theorem Rule.Cautious.edits_recode
    {r : Rule}
    {code : String}
    (hRule : r.Cautious)
    (hAscii : IsAscii (bytesOf code)) :
    RecodesFrom (CodeMap.ofText code) 0
      (r.edits (CodeMap.ofText code)) := by
  rw [Rule.edits_eq_filterMap]
  exact hRule.recodesFrom hAscii _ (all_lined _ _)

/- A script with the edits of a rule made. -/
def Rule.edited (r : Rule) (code : String) : String :=
  CodeMap.textOf
    (CodeMap.editedFrom 0 (CodeMap.ofText code).bytes
      (r.edits (CodeMap.ofText code)))

theorem Rule.Cautious.apply_eq
    {r : Rule}
    {code : String}
    (hRule : r.Cautious)
    (hAscii : IsAscii (bytesOf code)) :
    r.apply code =
      .ok (r.edited code, (r.edits (CodeMap.ofText code)).length) := by
  have hEdits := hRule.edits_recode hAscii
  have hWhole := List.all_eq_true.mpr hEdits.isWhole
  simp [Rule.apply, Rule.edited, CodeMap.applyEdits,
    hEdits.inOrder, hWhole, Except.bind, bind, pure, Except.pure]

/- A cautious rule gives a recoding of every ASCII script. -/
theorem Rule.Cautious.edited_recodes
    {r : Rule}
    {code : String}
    (hRule : r.Cautious)
    (hAscii : IsAscii (bytesOf code)) :
    bytesOf (r.edited code) =
        CodeMap.editedFrom 0 (bytesOf code)
          (r.edits (CodeMap.ofText code)) ∧
      IsAscii (bytesOf (r.edited code)) ∧
        Recoding code (r.edited code) := by
  have hRecodes := (hRule.edits_recode hAscii).recodes
  rw [List.drop_zero, List.drop_zero] at hRecodes
  have hBytes :=
    hRecodes.isAscii (by
      change IsAscii (CodeMap.ofText code).bytes
      rwa [CodeMap.bytes_ofText])
  have hText : bytesOf (r.edited code) = _ :=
    CodeMap.bytesOf_textOf hBytes
  unfold Recoding
  rw [hText]
  refine ⟨?_, hBytes, hRecodes⟩
  rw [CodeMap.bytes_ofText]

theorem Rule.Cautious.apply_recodes
    {r : Rule}
    {code : String}
    (hRule : r.Cautious)
    (hAscii : IsAscii (bytesOf code)) :
    ∃ next count,
      r.apply code = .ok (next, count) ∧
        IsAscii (bytesOf next) ∧ Recoding code next := by
  have hEdited := hRule.edited_recodes hAscii
  exact ⟨_, _, hRule.apply_eq hAscii, hEdited.2⟩

end Devirt

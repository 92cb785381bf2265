import Devirt.Proofs.Restoration.EntryCalls
import Devirt.Proofs.Restoration.Keeping

/-
  Entries at which counting breaks off.

  The entry is found in the text, so its second bracket may
  stand in a string, a template or a comment that reaches into
  the last line.  Then no bracket is open where counting
  begins, and it breaks off if the code closes one before it
  opens another.  That is all that can go wrong: what counting
  finds is a closing bracket behind the entry, where the script
  can be cut.

  Main declarations:
    * `CodeMap.ClosesFirst`, `CodeMap.matchingClose_parts`
    * `Layers.BreaksOff`, `Layers.entryCall?_eq_error_iff`
    * `Layers.digitTable_aborts_iff`,
      `Layers.continuedTemplate_aborts`
-/

------------------------------------------------------------
-- Counting from Any Bracket
------------------------------------------------------------

namespace Devirt

open Scanner

namespace CodeMap

variable {k : Bracket}

/- A closing bracket comes before any opening one. -/
def ClosesAhead (k : Bracket) (cells : List Cell) : Prop :=
  ∃ place : Nat,
    cells[place]? = some k.closingCell ∧
      ∀ earlier < place,
        cells[earlier]? ≠ some k.openingCell

theorem closesAhead_closing
    (k : Bracket)
    (rest : List Cell) :
    ClosesAhead k (k.closingCell :: rest) :=
  ⟨0, rfl, by simp⟩

theorem not_closesAhead_opening
    (k : Bracket)
    (rest : List Cell) :
    ¬ ClosesAhead k (k.openingCell :: rest) := by
  rintro ⟨place, hClosing, hNone⟩
  cases place with
  | zero =>
      exact k.openingCell_ne_closingCell k (Option.some.inj hClosing)
  | succ place => exact hNone 0 (Nat.succ_pos place) rfl

theorem closesAhead_cons
    {c : Cell}
    (hOpening : c ≠ k.openingCell)
    (hClosing : c ≠ k.closingCell)
    (rest : List Cell) :
    ClosesAhead k (c :: rest) ↔ ClosesAhead k rest := by
  constructor
  · rintro ⟨place, hPlace, hNone⟩
    cases place with
    | zero => exact absurd (Option.some.inj hPlace) hClosing
    | succ place =>
        exact
          ⟨place, hPlace, fun earlier hEarlier =>
            hNone (earlier + 1) (Nat.succ_lt_succ hEarlier)⟩
  · rintro ⟨place, hPlace, hNone⟩
    refine ⟨place + 1, hPlace, ?_⟩
    intro earlier hEarlier
    cases earlier with
    | zero => simpa using hOpening
    | succ earlier => exact hNone earlier (by omega)

/-
  With no bracket open, counting breaks off where one is closed
  before another is opened, and gives a closing bracket
  otherwise, or nothing.
-/
theorem closeFrom_none_open
    (k : Bracket)
    (offset : Nat)
    (cells : List Cell) :
    (ClosesAhead k cells ∧
        closeFrom k offset 0 cells = .error .unbalanced) ∨
      (¬ ClosesAhead k cells ∧
        ∃ found,
          closeFrom k offset 0 cells = .ok found ∧
            ∀ close ∈ found,
              offset ≤ close ∧
                cells[close - offset]? =
                  some ⟨k.closing, true⟩) := by
  induction cells generalizing offset with
  | nil =>
      right
      refine ⟨?_, none, rfl, by simp⟩
      rintro ⟨place, hPlace, -⟩
      simp at hPlace
  | cons c rest ih =>
      have hMoved :
          ∀ {found : Option Nat},
            (∀ close ∈ found,
              offset + 1 ≤ close ∧
                rest[close - (offset + 1)]? =
                  some ⟨k.closing, true⟩) →
              ∀ close ∈ found,
                offset ≤ close ∧
                  (c :: rest)[close - offset]? =
                    some ⟨k.closing, true⟩ := by
        intro found hClose close hMember
        rcases hClose close hMember with ⟨hAfter, hCell⟩
        refine ⟨by omega, ?_⟩
        rw [getElem?_cons_sub hAfter]
        exact hCell
      by_cases hOpening : c = k.openingCell
      · right
        rcases closeFrom_of_open k (offset + 1) rest Nat.one_pos
          with ⟨found, hFound, hClose⟩
        have hHere := (isOpening_iff k c).mpr hOpening
        refine ⟨?_, found, ?_, hMoved hClose⟩
        · rw [hOpening]
          exact not_closesAhead_opening k rest
        · rw [closeFrom, if_pos hHere]
          exact hFound
      · have hNot := mt (isOpening_iff k c).mp hOpening
        by_cases hClosing : c = k.closingCell
        · left
          have hHere := (isClosing_iff k c).mpr hClosing
          refine ⟨?_, ?_⟩
          · rw [hClosing]
            exact closesAhead_closing k rest
          · rw [closeFrom, if_neg hNot, if_pos hHere]
        · have hStep :
              closeFrom k offset 0 (c :: rest) =
                closeFrom k (offset + 1) 0 rest := by
            rw [closeFrom, if_neg hNot,
              if_neg (mt (isClosing_iff k c).mp hClosing)]
          rw [hStep, closesAhead_cons hOpening hClosing rest]
          rcases ih (offset + 1) with
            hBreaks | ⟨hNone, found, hFound, hClose⟩
          · exact Or.inl hBreaks
          · exact Or.inr ⟨hNone, found, hFound, hMoved hClose⟩

/-
  From an offset on, the code closes a bracket before it opens
  one.
-/
def ClosesFirst
    (m : CodeMap)
    (k : Bracket)
    (start : Nat) : Prop :=
  ∃ close,
    start ≤ close ∧ m.HasCode close k.closing ∧
      ∀ offset, start ≤ offset → offset < close →
        ¬ m.HasCode offset k.opening

theorem closesFirst_iff
    (m : CodeMap)
    (k : Bracket)
    (start : Nat) :
    m.ClosesFirst k start ↔
      ClosesAhead k (m.cells.toList.drop start) := by
  have hCell :
      ∀ place b,
        (m.cells.toList.drop start)[place]? = some ⟨b, true⟩ ↔
          m.HasCode (start + place) b := by
    intro place b
    rw [List.getElem?_drop, Array.getElem?_toList]
    rfl
  constructor
  · rintro ⟨close, hAfter, hClosing, hNone⟩
    rcases Nat.exists_eq_add_of_le hAfter with ⟨place, rfl⟩
    refine ⟨place, (hCell place _).mpr hClosing, ?_⟩
    intro earlier hEarlier hOpening
    exact
      hNone (start + earlier) (by omega) (by omega)
        ((hCell earlier _).mp hOpening)
  · rintro ⟨place, hClosing, hNone⟩
    refine
      ⟨start + place, by omega, (hCell place _).mp hClosing, ?_⟩
    intro offset hAfter hBefore hOpening
    rcases Nat.exists_eq_add_of_le hAfter with ⟨earlier, rfl⟩
    exact
      hNone earlier (by omega) ((hCell earlier _).mpr hOpening)

/- Where an opening bracket is code, none is closed first. -/
theorem HasCode.not_closesFirst
    {m : CodeMap}
    {start : Nat}
    (hOpening : m.HasCode start k.opening) :
    ¬ m.ClosesFirst k start := by
  rw [closesFirst_iff, hOpening.drop_eq]
  exact not_closesAhead_opening k _

/-
  What counting from an opening bracket comes to, be it code or
  not.
-/
theorem matchingClose_parts
    {m : CodeMap}
    {start : Nat}
    (hByte : m.byte? start = some k.opening) :
    (m.ClosesFirst k start ∧
        m.matchingClose start = .error .unbalanced) ∨
      (¬ m.ClosesFirst k start ∧
        ∃ found,
          m.matchingClose start = .ok found ∧
            ∀ close ∈ found,
              start ≤ close ∧ m.HasCode close k.closing) := by
  have hCount :
      m.matchingClose start =
        closeFrom k start 0 (m.cells.toList.drop start) := by
    simp only [matchingClose, hByte, Bracket.ofOpening?_opening]
  rw [hCount, closesFirst_iff]
  rcases closeFrom_none_open k start (m.cells.toList.drop start)
    with hBreaks | ⟨hNone, found, hFound, hClose⟩
  · exact Or.inl hBreaks
  · refine Or.inr ⟨hNone, found, hFound, ?_⟩
    intro close hMember
    rcases hClose close hMember with ⟨hAfter, hCell⟩
    refine ⟨hAfter, ?_⟩
    rw [List.getElem?_drop, Nat.add_sub_cancel' hAfter,
      Array.getElem?_toList] at hCell
    exact hCell

end CodeMap

end Devirt

------------------------------------------------------------
-- Counting from the Entry
------------------------------------------------------------

namespace Devirt

open Scanner CodeMap

namespace Layers

/-
  A closing bracket of code behind the second one of an entry
  is where the script can be cut.
-/
theorem Entry.exists_exposed
    {close : Nat}
    (e : Entry)
    (hAfter : e.opening ≤ close)
    (hClosing :
      (ofText e.code).HasCode close Bracket.round.closing) :
    ∃ found, e.exposed (some close) = .ok found := by
  rcases e.byte?_opening with ⟨hByte, hInside⟩
  have hOther : e.opening ≠ close := by
    rintro rfl
    rw [hClosing.byte?_eq] at hByte
    exact absurd hByte (by decide)
  have hStart :
      (ofText e.code).isBoundary e.inside = true := by
    rw [← hInside]
    exact
      isBoundary_succ_of_ascii (cuttable_ofText e.code) hByte
        (by decide)
  have hStop :
      (ofText e.code).isBoundary close = true :=
    isBoundary_of_ascii hClosing.byte?_eq
      Bracket.round.closing_ascii
  rw [Entry.exposed, slice_eq (by omega) hStart hStop]
  exact ⟨_, rfl⟩

/- What an entry comes to. -/
theorem Entry.entryCall?_parts
    (e : Entry) :
    ((ofText e.code).ClosesFirst .round e.opening ∧
        entryCall? e.code = .error .unbalanced) ∨
      (¬ (ofText e.code).ClosesFirst .round e.opening ∧
        ∃ found, entryCall? e.code = .ok found) := by
  rw [entryCall?_of_entry]
  rcases matchingClose_parts (k := .round) e.byte?_opening.1 with
    ⟨hFirst, hBreaks⟩ | ⟨hNone, found, hFound, hClose⟩
  · left
    rw [hBreaks]
    exact ⟨hFirst, rfl⟩
  · right
    rw [hFound]
    refine ⟨hNone, ?_⟩
    cases found with
    | none => exact ⟨none, rfl⟩
    | some close =>
        rcases hClose close rfl with ⟨hAfter, hClosing⟩
        exact e.exists_exposed hAfter hClosing

/-
  A script with an entry behind whose second bracket the code
  closes a bracket before it opens one, this bracket included.
-/
def BreaksOff (code : String) : Prop :=
  ∃ e : Entry,
    e.code = code ∧ (ofText code).ClosesFirst .round e.opening

/- Counting breaks off in such scripts alone. -/
theorem entryCall?_eq_error_iff
    (code : String)
    (fault : Fault) :
    entryCall? code = .error fault ↔
      fault = .unbalanced ∧ BreaksOff code := by
  constructor
  · intro hBreaks
    by_cases hEntry : ∃ e : Entry, e.code = code
    · rcases hEntry with ⟨e, rfl⟩
      rcases e.entryCall?_parts with
        ⟨hFirst, hError⟩ | ⟨-, found, hFound⟩
      · rw [hError] at hBreaks
        cases hBreaks
        exact ⟨rfl, e, rfl, hFirst⟩
      · rw [hFound] at hBreaks
        cases hBreaks
    · rw [entryCall?_of_noEntry (not_exists.mp hEntry)] at hBreaks
      cases hBreaks
  · rintro ⟨rfl, e, rfl, hFirst⟩
    rcases e.entryCall?_parts with ⟨-, hError⟩ | ⟨hNone, -⟩
    · exact hError
    · exact absurd hFirst hNone

theorem exists_ok_of_not_breaksOff
    {code : String}
    (hWhole : ¬ BreaksOff code) :
    ∃ found, entryCall? code = .ok found := by
  cases hFound : entryCall? code with
  | ok found => exact ⟨found, rfl⟩
  | error fault =>
      have hBreaks := (entryCall?_eq_error_iff code fault).mp hFound
      exact absurd hBreaks.2 hWhole

/- An entry whose second bracket is code goes through. -/
theorem Entry.exists_ok_of_isCode
    (e : Entry)
    (hCode : (ofText e.code).isCode e.opening = true) :
    ∃ found, entryCall? e.code = .ok found := by
  have hOpening :
      (ofText e.code).HasCode e.opening Bracket.round.opening :=
    hasCode_of_isCode hCode e.byte?_opening.1
  rcases e.entryCall?_parts with ⟨hFirst, -⟩ | ⟨-, hFound⟩
  · exact absurd hFirst hOpening.not_closesFirst
  · exact hFound

/- A script with an entry is not blank. -/
theorem Entry.isBlankText_code
    (e : Entry) :
    Text.isBlankText e.code = false := by
  rcases e.lastLine.exists_parts with
    ⟨body, c, tail, hLine, hBlank, -, -⟩
  rw [Text.isBlankText, Entry.code, String.toList_ofList, hLine]
  simp [hBlank]

------------------------------------------------------------
-- Restoring
------------------------------------------------------------

variable {σ : Type}

/- Within the size limit the entry decides. -/
theorem restoreDigitTable_of_entryCall?
    {tools : Tools σ}
    {code : String}
    (memory : σ)
    (hSize : code.utf8ByteSize ≤ tools.settings.encodedSizeLimit) :
    (∀ fault, entryCall? code = .error fault →
        ((restoreDigitTable tools code).run memory).1 =
          .error fault) ∧
      (entryCall? code = .ok none →
        ((restoreDigitTable tools code).run memory).1 =
          .ok (.fallback code failedConfidence
            (Family.digitTable.name ++
              " entry point not found on the last line"))) ∧
        ∀ program, entryCall? code = .ok (some program) →
          ∃ r,
            ((restoreDigitTable tools code).run memory).1 =
              .ok r := by
  have hAccepted : refusal? tools .digitTable code = none :=
    if_neg (Nat.not_lt.mpr hSize)
  unfold restoreDigitTable
  rw [hAccepted]
  refine ⟨?_, ?_, ?_⟩
  · intro fault hFault
    rw [hFault]
    rfl
  · intro hNone
    rw [hNone]
    rfl
  · intro program hProgram
    rw [hProgram]
    exact ⟨_, rfl⟩

/- A script above the size limit is refused. -/
theorem restoreDigitTable_of_large
    {tools : Tools σ}
    {code : String}
    (memory : σ)
    (hSize :
      ¬ code.utf8ByteSize ≤ tools.settings.encodedSizeLimit) :
    ∃ r, ((restoreDigitTable tools code).run memory).1 = .ok r := by
  have hRefused :
      ∃ r, refusal? tools .digitTable code = some r :=
    ⟨_, if_pos (Nat.not_le.mp hSize)⟩
  rcases hRefused with ⟨r, hRefused⟩
  unfold restoreDigitTable
  rw [hRefused]
  exact ⟨r, rfl⟩

/-
  The search for the entry breaks off in one way only, and just
  where no bracket is open; never if the second bracket of the
  entry is code.  Within the size limit the strategy is then
  given up, and in no other script.  A script without a usable
  entry at which nothing breaks off is told to have none.
-/
theorem digitTable_aborts_iff
    (tools : Tools σ)
    (code : String)
    (features : Option Features)
    (memory : σ) :
    let outcome :=
      ((strategy tools .digitTable code features).run memory).1
    let result :=
      ((runStrategy tools .digitTable code features).run
        memory).1
    let isSmall :=
      code.utf8ByteSize ≤ tools.settings.encodedSizeLimit
    (∀ fault,
        entryCall? code = .error fault ↔
          fault = .unbalanced ∧ BreaksOff code) ∧
      (∀ e : Entry, e.code = code →
        (ofText code).isCode e.opening = true →
          ∃ found, entryCall? code = .ok found) ∧
      ((∃ fault, outcome = .error fault) ↔
        isSmall ∧ BreaksOff code) ∧
      (isSmall → BreaksOff code →
        result =
          .fallback code fallbackConfidence
            (Family.digitTable.name ++
              " strategy aborted unexpectedly")) ∧
      (isSmall → entryCall? code = .ok none →
        result =
          keepUnlessBlank code
            (.fallback code failedConfidence
              (Family.digitTable.name ++
                " entry point not found on the last line"))) := by
  intro outcome result isSmall
  have hError (hSmall : isSmall) (hBreaks : BreaksOff code) :
      outcome = .error .unbalanced :=
    (restoreDigitTable_of_entryCall? memory hSmall).1 _
      ((entryCall?_eq_error_iff code _).mpr ⟨rfl, hBreaks⟩)
  refine ⟨entryCall?_eq_error_iff code, ?_, ?_, ?_, ?_⟩
  · rintro e rfl
    exact e.exists_ok_of_isCode
  · constructor
    · rintro ⟨fault, hFault⟩
      by_cases hSmall : isSmall
      · refine ⟨hSmall, ?_⟩
        have hDecides :=
          restoreDigitTable_of_entryCall? memory hSmall
        by_contra hWhole
        rcases exists_ok_of_not_breaksOff hWhole with
          ⟨_ | program, hFound⟩
        · have hOk : outcome = _ := hDecides.2.1 hFound
          rw [hOk] at hFault
          cases hFault
        · rcases hDecides.2.2 program hFound with ⟨r, hOk⟩
          have hOk : outcome = .ok r := hOk
          rw [hOk] at hFault
          cases hFault
      · rcases restoreDigitTable_of_large memory hSmall with
          ⟨r, hOk⟩
        have hOk : outcome = .ok r := hOk
        rw [hOk] at hFault
        cases hFault
    · rintro ⟨hSmall, hBreaks⟩
      exact ⟨_, hError hSmall hBreaks⟩
  · intro hSmall hBreaks
    have hResult : result = keepUnlessBlank code _ :=
      runStrategy_of_error (hError hSmall hBreaks)
    rcases hBreaks with ⟨e, rfl, -⟩
    rw [hResult]
    exact keepUnlessBlank_of_text _ e.isBlankText_code
  · intro hSmall hNone
    exact
      runStrategy_of_ok
        ((restoreDigitTable_of_entryCall? memory hSmall).2.1
          hNone)

/- A template that reaches into the last line. -/
def continuedTemplate : String := "f(`\n$.$($.$(`);"

/-
  The last line begins like an entry, but the code only closes
  the bracket that it has open.
-/
theorem continuedTemplate_aborts :
    entryCall? continuedTemplate = .error .unbalanced ∧
      ((runStrategy emptyAnswers .digitTable continuedTemplate
        none).run ()).1.warnings =
          ["jjencode strategy aborted unexpectedly"] := by
  exact ⟨by decide +kernel, by decide +kernel⟩

end Layers

end Devirt

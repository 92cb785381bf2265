import Devirt.Extraction.Extract
import Devirt.Proofs.Source.Keywords
import Devirt.Restoration.Restore

/-
  Detection and extraction mean the same switch statement.

  Detection keeps a running maximum over all switch statements
  it meets.  Extraction searches again, for the first one with
  that many cases.  Both end up with the same statement, so a
  detected machine always has its instructions.

  Main declarations:
    * `FirstGreatest`
    * `Signals.Records` and `Signals.Records.noteSwitch`
    * `Analysis.switches`, the switch statements as lists of
      instructions
    * `AgreesOn` and `detect_extract_agree`
-/

------------------------------------------------------------
-- First Maxima
------------------------------------------------------------

namespace Devirt

/-
  The number at a place of a list is the greatest one, and no
  number before it is as great.
-/
structure FirstGreatest
    (counts : List Nat)
    (place greatest : Nat) : Prop where
  at_place : counts[place]? = some greatest
  le_greatest : ∀ count ∈ counts, count ≤ greatest
  lt_before :
    ∀ earlier < place, ∀ count,
      counts[earlier]? = some count → count < greatest

theorem FirstGreatest.append_le
    {counts : List Nat}
    {place greatest last : Nat}
    (hFirst : FirstGreatest counts place greatest)
    (hLast : last ≤ greatest) :
    FirstGreatest (counts ++ [last]) place greatest := by
  have hInside : place < counts.length :=
    (List.getElem?_eq_some_iff.mp hFirst.at_place).1
  refine ⟨?_, ?_, ?_⟩
  · rw [List.getElem?_append_left hInside]
    exact hFirst.at_place
  · intro count hMember
    rcases List.mem_append.mp hMember with hOld | hNew
    · exact hFirst.le_greatest count hOld
    · rw [List.mem_singleton.mp hNew]
      exact hLast
  · intro earlier hEarlier count hCount
    rw [List.getElem?_append_left (by omega)] at hCount
    exact hFirst.lt_before earlier hEarlier count hCount

theorem firstGreatest_append_gt
    {counts : List Nat}
    {greatest last : Nat}
    (hOld : ∀ count ∈ counts, count ≤ greatest)
    (hLast : greatest < last) :
    FirstGreatest (counts ++ [last]) counts.length last := by
  refine ⟨by simp, ?_, ?_⟩
  · intro count hMember
    rcases List.mem_append.mp hMember with hEarlier | hNew
    · exact
        Nat.le_of_lt
          (Nat.lt_of_le_of_lt (hOld count hEarlier) hLast)
    · exact Nat.le_of_eq (List.mem_singleton.mp hNew)
  · intro earlier hEarlier count hCount
    rw [List.getElem?_append_left hEarlier] at hCount
    exact
      Nat.lt_of_le_of_lt
        (hOld count (List.mem_of_getElem? hCount)) hLast

/-
  The member with the first greatest measure is the first one
  that a search for that measure finds.
-/
theorem FirstGreatest.find?_measure
    {α : Type}
    {items : List α}
    {measure : α → Nat}
    {place greatest : Nat}
    (hFirst :
      FirstGreatest (items.map measure) place greatest) :
    items[place]? =
      items.find? fun item => measure item == greatest := by
  have hInside : place < items.length := by
    simpa using
      (List.getElem?_eq_some_iff.mp hFirst.at_place).1
  rw [List.getElem?_eq_getElem hInside]
  symm
  refine List.find?_eq_some_iff_getElem.mpr
    ⟨?_, place, hInside, rfl, ?_⟩
  · have hPlace := hFirst.at_place
    simpa [List.getElem?_map, hInside] using hPlace
  · intro earlier hEarlier
    have hBound : earlier < items.length :=
      Nat.lt_trans hEarlier hInside
    have hCount :
        (items.map measure)[earlier]? =
          some (measure items[earlier]) := by
      simp [hBound]
    have hLess :=
      hFirst.lt_before earlier hEarlier _ hCount
    simpa using Nat.ne_of_lt hLess

------------------------------------------------------------
-- Records of Signals
------------------------------------------------------------

namespace Signals

/-
  What signals say about the switch statements met so far,
  given by their numbers of cases.
-/
structure Records
    (settings : DetectorSettings)
    (counts : List Nat)
    (s : Signals) : Prop where
  hasSwitch_iff :
    s.hasSwitch = true ↔
      ∃ count ∈ counts, settings.minSwitchCases < count
  le_maxCases : ∀ count ∈ counts, count ≤ s.maxCases
  ordinal_first :
    ∀ place, s.ordinal = some place →
      FirstGreatest counts place s.maxCases
  ordinal_isSome :
    0 < s.maxCases → s.ordinal.isSome = true

theorem records_nil
    (settings : DetectorSettings)
    {s : Signals}
    (hSwitch : s.hasSwitch = false)
    (hMax : s.maxCases = 0)
    (hOrdinal : s.ordinal = none) :
    Records settings [] s :=
  { hasSwitch_iff := by simp [hSwitch]
    le_maxCases := by simp
    ordinal_first := by simp [hOrdinal]
    ordinal_isSome := by simp [hMax] }

/- Other signs do not matter. -/
theorem Records.congr
    {settings : DetectorSettings}
    {counts : List Nat}
    {s other : Signals}
    (hRecords : Records settings counts s)
    (hSwitch : other.hasSwitch = s.hasSwitch)
    (hMax : other.maxCases = s.maxCases)
    (hOrdinal : other.ordinal = s.ordinal) :
    Records settings counts other :=
  { hasSwitch_iff := by
      rw [hSwitch]
      exact hRecords.hasSwitch_iff
    le_maxCases := by
      rw [hMax]
      exact hRecords.le_maxCases
    ordinal_first := by
      rw [hMax, hOrdinal]
      exact hRecords.ordinal_first
    ordinal_isSome := by
      rw [hMax, hOrdinal]
      exact hRecords.ordinal_isSome }

/- One more switch statement. -/
theorem Records.noteSwitch
    {settings : DetectorSettings}
    {counts : List Nat}
    {s : Signals}
    (hRecords : Records settings counts s)
    (cases : Nat) :
    Records settings (counts ++ [cases])
      (s.noteSwitch settings counts.length cases) := by
  have hSwitch :
      (s.noteSwitch settings counts.length cases).hasSwitch =
          true ↔
        ∃ count ∈ counts ++ [cases],
          settings.minSwitchCases < count := by
    simp [Signals.noteSwitch, hRecords.hasSwitch_iff, or_and_right,
      exists_or]
  by_cases hGreater : s.maxCases < cases
  · have hFirst :=
      firstGreatest_append_gt hRecords.le_maxCases hGreater
    refine ⟨hSwitch, ?_, ?_, ?_⟩
    · simpa [Signals.noteSwitch, hGreater] using
        hFirst.le_greatest
    · intro place hPlace
      simp only [Signals.noteSwitch, hGreater, if_true,
        Option.some.injEq] at hPlace ⊢
      rw [← hPlace]
      exact hFirst
    · simp [Signals.noteSwitch, hGreater]
  · have hLess : cases ≤ s.maxCases := Nat.not_lt.mp hGreater
    refine ⟨hSwitch, ?_, ?_, ?_⟩
    · intro count hMember
      simp only [Signals.noteSwitch, hGreater, if_false]
      rcases List.mem_append.mp hMember with hOld | hNew
      · exact hRecords.le_maxCases count hOld
      · rw [List.mem_singleton.mp hNew]
        exact hLess
    · intro place hPlace
      simp only [Signals.noteSwitch, hGreater, if_false]
        at hPlace ⊢
      exact (hRecords.ordinal_first place hPlace).append_le hLess
    · simpa [Signals.noteSwitch, hGreater] using
        hRecords.ordinal_isSome

/- A machine is dispatched by the first greatest switch. -/
theorem Records.dispatch
    {settings : DetectorSettings}
    {counts : List Nat}
    {s : Signals}
    (hRecords : Records settings counts s)
    (hSwitch : s.hasSwitch = true) :
    1 ≤ s.maxCases ∧
      ∃ place, s.ordinal = some place ∧
        FirstGreatest counts place s.maxCases := by
  rcases hRecords.hasSwitch_iff.mp hSwitch with
    ⟨count, hMember, hMany⟩
  have hLe := hRecords.le_maxCases count hMember
  have hPos : 0 < s.maxCases := by omega
  rcases Option.isSome_iff_exists.mp
      (hRecords.ordinal_isSome hPos) with ⟨place, hPlace⟩
  exact
    ⟨hPos, place, hPlace, hRecords.ordinal_first place hPlace⟩

end Signals

------------------------------------------------------------
-- Texts
------------------------------------------------------------

namespace Lexical

/-
  The number of labels of the switch statement at an offset;
  a statement whose body is not found has none.
-/
def caseCount
    (m : CodeMap)
    (offset : Nat) :
    Nat :=
  ((m.switchBody? offset).map (·.labels.length)).getD 0

/-
  The instructions of the switch statement at an offset, one
  for each label: the case of a label ends at the next label,
  and the last one at the closing brace.
-/
def lifted
    (m : CodeMap)
    (offset : Nat) :
    List Instruction :=
  match m.switchBody? offset with
  | none => []
  | some body =>
      body.labels.mapIdx fun index start =>
        instruction m m.masked index start
          (body.labels[index + 1]?.getD body.close)

theorem length_lifted
    (m : CodeMap)
    (offset : Nat) :
    (lifted m offset).length = caseCount m offset := by
  unfold lifted caseCount
  cases m.switchBody? offset with
  | none => rfl
  | some body => simp

theorem instructionsFrom_eq_mapIdx
    (m : CodeMap)
    (masked : List Char)
    (close index : Nat)
    (labels : List Nat) :
    instructionsFrom m masked close index labels =
      labels.mapIdx fun place start =>
        instruction m masked (index + place) start
          (labels[place + 1]?.getD close) := by
  fun_induction instructionsFrom m masked close index labels with
  | case1 index => rfl
  | case2 index here => simp
  | case3 index here next rest ih =>
      rw [List.mapIdx_cons, ih]
      simp [Nat.add_assoc, Nat.add_comm 1]

/- Noting switch statements one after the other. -/
theorem noteSwitches_records
    (m : CodeMap)
    (settings : DetectorSettings)
    (offsets : List Nat)
    {counts : List Nat}
    {s : Signals}
    (hRecords : s.Records settings counts) :
    (noteSwitches m settings counts.length offsets s).Records
      settings (counts ++ offsets.map (caseCount m)) := by
  induction offsets generalizing counts s with
  | nil => simpa [noteSwitches] using hRecords
  | cons offset rest ih =>
      have hNext :=
        ih (hRecords.noteSwitch (caseCount m offset))
      rw [List.append_assoc] at hNext
      simpa [noteSwitches, caseCount] using hNext

theorem signals_records
    (code : String)
    (settings : DetectorSettings) :
    (signals code settings).Records settings
      (((CodeMap.ofText code).keywordOffsets "switch").map
        (caseCount (CodeMap.ofText code))) := by
  have hEmpty :
      Signals.Records settings [] ({} : Signals) :=
    Signals.records_nil settings rfl rfl rfl
  have hAll :=
    noteSwitches_records (CodeMap.ofText code) settings
      ((CodeMap.ofText code).keywordOffsets "switch") hEmpty
  exact hAll.congr rfl rfl rfl

theorem exists_body_of_caseCount
    {m : CodeMap}
    {offset : Nat}
    (hPos : 1 ≤ caseCount m offset) :
    ∃ body, m.switchBody? offset = some body := by
  cases hBody : m.switchBody? offset with
  | none => simp [caseCount, hBody] at hPos
  | some body => exact ⟨body, rfl⟩

/- Only a body with that many labels is searched for. -/
theorem any_labels_eq_caseCount
    (m : CodeMap)
    {expected : Nat}
    (hPos : 1 ≤ expected)
    (offset : Nat) :
    ((m.switchBody? offset).any fun body =>
        body.labels.length == expected && 0 < expected) =
      (caseCount m offset == expected) := by
  unfold caseCount
  cases m.switchBody? offset with
  | none =>
      simp
      omega
  | some body =>
      simp
      omega

/- Extraction finds the first greatest switch statement. -/
theorem instructions_eq_lifted
    (code : String)
    {place expected : Nat}
    (hPos : 1 ≤ expected)
    (hFirst :
      FirstGreatest
        (((CodeMap.ofText code).keywordOffsets "switch").map
          (caseCount (CodeMap.ofText code)))
        place expected) :
    (((CodeMap.ofText code).keywordOffsets "switch").map
        (lifted (CodeMap.ofText code)))[place]? =
      some (instructions code expected) := by
  unfold instructions
  generalize CodeMap.ofText code = m at hFirst ⊢
  have hPlace := hFirst.at_place
  rw [List.getElem?_map] at hPlace
  rcases Option.map_eq_some_iff.mp hPlace with
    ⟨offset, hOffset, hCount⟩
  rcases exists_body_of_caseCount (hCount ▸ hPos) with
    ⟨body, hBody⟩
  have hFound :
      ((m.keywordOffsets "switch").filterMap m.switchBody?).find?
          (fun b => b.labels.length == expected && 0 < expected) =
        some body := by
    rw [List.find?_filterMap]
    simp only [any_labels_eq_caseCount m hPos]
    rw [← hFirst.find?_measure, hOffset]
    exact hBody
  rw [List.getElem?_map, hOffset]
  simp only [hFound]
  simp [lifted, hBody, instructionsFrom_eq_mapIdx]

end Lexical


------------------------------------------------------------
-- Trees
------------------------------------------------------------

namespace Syntactic

open Script

/- The cases of a node that is a switch statement. -/
def switchCases? : Tree → Option (List Tree)
  | .node .switch (_ :: cases) => some cases
  | _ => none

/- The switch statements of a tree, as lists of cases. -/
def switches (t : Tree) : List (List Tree) :=
  t.nodes.filterMap switchCases?

theorem eq_switch_of_switchCases?
    {t : Tree}
    {cases : List Tree}
    (hCases : switchCases? t = some cases) :
    ∃ subject, t = .node .switch (subject :: cases) := by
  unfold switchCases? at hCases
  split at hCases
  · rename_i subject found
    cases hCases
    exact ⟨subject, rfl⟩
  · cases hCases

/-
  A search that has met some switch statements, given by their
  numbers of cases.
-/
structure Search.Tracks
    (settings : DetectorSettings)
    (counts : List Nat)
    (s : Search) : Prop where
  records : s.signals.Records settings counts
  switches_eq : s.switches = counts.length

/- A node adds its cases if it is a switch statement. -/
theorem Search.Tracks.note
    {settings : DetectorSettings}
    {counts : List Nat}
    {s : Search}
    (hTracks : s.Tracks settings counts)
    (t : Tree) :
    (Syntactic.note settings s t).Tracks settings
      (counts ++ (switchCases? t).toList.map List.length) := by
  cases hCases : switchCases? t with
  | some cases =>
      rcases eq_switch_of_switchCases? hCases with
        ⟨subject, hNode⟩
      subst t
      have hNext := hTracks.records.noteSwitch cases.length
      refine ⟨?_, ?_⟩
      · simpa [Syntactic.note, hTracks.switches_eq] using hNext
      · simp [Syntactic.note, hTracks.switches_eq]
  | none =>
      simp only [Option.toList_none, List.map_nil,
        List.append_nil]
      unfold Syntactic.note
      split
      · simp [switchCases?] at hCases
      all_goals
        exact
          ⟨hTracks.records.congr rfl rfl rfl,
            hTracks.switches_eq⟩

theorem Search.Tracks.foldl
    {settings : DetectorSettings}
    (nodes : List Tree)
    {counts : List Nat}
    {s : Search}
    (hTracks : s.Tracks settings counts) :
    (nodes.foldl (Syntactic.note settings) s).Tracks settings
      (counts ++
        (nodes.filterMap switchCases?).map List.length) := by
  induction nodes generalizing counts s with
  | nil => simpa using hTracks
  | cons t rest ih =>
      have hNext := ih (hTracks.note t)
      rw [List.append_assoc] at hNext
      cases hCases : switchCases? t with
      | none => simpa [List.filterMap_cons, hCases] using hNext
      | some cases =>
          simpa [List.filterMap_cons, hCases] using hNext

theorem signals_records
    (t : Tree)
    (settings : DetectorSettings) :
    (signals t settings).Records settings
      ((switches t).map List.length) := by
  have hEmpty :
      Search.Tracks settings []
        ⟨{ fromTree := true }, 0⟩ :=
    ⟨Signals.records_nil settings rfl rfl rfl, rfl⟩
  exact (hEmpty.foldl t.nodes).records

theorem casesOf?_eq_filter
    (expected : Nat)
    (t : Tree) :
    casesOf? expected t =
      (switchCases? t).filter
        fun cases => cases.length == expected := by
  cases hCases : switchCases? t with
  | some cases =>
      rcases eq_switch_of_switchCases? hCases with
        ⟨subject, hNode⟩
      subst t
      simp [casesOf?, Option.filter]
  | none =>
      unfold casesOf?
      split
      · simp [switchCases?] at hCases
      · rfl

/- Extraction finds the first greatest switch statement. -/
theorem instructions_eq_mapIdx
    (t : Tree)
    {place expected : Nat}
    (hFirst :
      FirstGreatest ((switches t).map List.length)
        place expected) :
    ((switches t).map (·.mapIdx instruction))[place]? =
      some (instructions t expected) := by
  have hInside : place < (switches t).length := by
    simpa using
      (List.getElem?_eq_some_iff.mp hFirst.at_place).1
  have hSearch :
      t.nodes.findSome? (casesOf? expected) =
        (switches t)[place]? := by
    rw [hFirst.find?_measure, ← List.head?_filter]
    unfold switches
    rw [List.filter_filterMap, ← List.head?_filterMap]
    simp only [casesOf?_eq_filter]
  rw [List.getElem?_map]
  unfold instructions
  rw [hSearch, List.getElem?_eq_getElem hInside]
  rfl

end Syntactic

------------------------------------------------------------
-- Agreement
------------------------------------------------------------

/-
  The switch statements of a script in the order in which an
  analysis meets them, each as the instructions of its cases.
-/
def Analysis.switches
    (a : Analysis)
    (code : String) :
    List (List Instruction) :=
  match a.tree? code with
  | some t =>
      (Syntactic.switches t).map
        (·.mapIdx Syntactic.instruction)
  | none =>
      ((CodeMap.ofText code).keywordOffsets "switch").map
        (Lexical.lifted (CodeMap.ofText code))

theorem signals_record_switches
    (a : Analysis)
    (code : String)
    (settings : DetectorSettings) :
    (signals a code settings).Records settings
      ((a.switches code).map List.length) := by
  unfold signals Analysis.switches
  cases a.tree? code with
  | some t =>
      simpa [Function.comp_def] using
        Syntactic.signals_records t settings
  | none =>
      simpa [Function.comp_def, Lexical.length_lifted] using
        Lexical.signals_records code settings

theorem extract_eq_switch
    (a : Analysis)
    (code : String)
    {place expected : Nat}
    (hPos : 1 ≤ expected)
    (hFirst :
      FirstGreatest ((a.switches code).map List.length)
        place expected) :
    (a.switches code)[place]? =
      some (extract a code expected) := by
  unfold extract
  unfold Analysis.switches at hFirst ⊢
  cases hTree : a.tree? code with
  | some t =>
      apply Syntactic.instructions_eq_mapIdx t
      simpa [hTree, Function.comp_def] using hFirst
  | none =>
      apply Lexical.instructions_eq_lifted code hPos
      simpa [hTree, Function.comp_def, Lexical.length_lifted]
        using hFirst

/- The labels of a body stand in it in this order. -/
theorem CodeMap.switchBody?_labels_ascending
    {m : CodeMap}
    {start : Nat}
    {body : SwitchBody}
    (hBody : m.switchBody? start = some body) :
    body.labels.Pairwise (· < ·) := by
  simp only [CodeMap.switchBody?, Option.bind_eq_bind,
    Option.bind_eq_some_iff, Option.pure_def,
    Option.some.injEq] at hBody
  rcases hBody with
    ⟨paren, -, parenClose, -, opening, -, close, -, hLabels⟩
  subst body
  exact m.labelOffsets_ascending.filter _

/-
  What detection found is what extraction gives: one
  instruction for each label, of the switch statement that the
  signals have recorded, which is the first greatest one.
-/
structure AgreesOn
    (a : Analysis)
    (code : String)
    (settings : DetectorSettings)
    (features : Features) : Prop where
  count_pos : 1 ≤ features.instructionCount
  length_eq :
    (extract a code features.instructionCount).length =
      features.instructionCount
  dispatch :
    ∃ place,
      (signals a code settings).ordinal = some place ∧
        FirstGreatest ((a.switches code).map List.length)
          place features.instructionCount ∧
        (a.switches code)[place]? =
          some (extract a code features.instructionCount)
  labels_ascending :
    ∀ offset body,
      (CodeMap.ofText code).switchBody? offset = some body →
        body.labels.Pairwise (· < ·)

/-
  The parts that a result reports as unresolved are those of
  the strategy.  No part is ever added for instructions that
  could not be extracted.
-/
theorem deobfuscate_unresolved
    {σ : Type}
    (tools : Tools σ)
    (settings : Settings)
    (code : String)
    (memory : σ)
    (hExtract :
      ∀ features,
        detect .syntactic code settings.detector =
            some features →
          extract .syntactic code features.instructionCount ≠
            []) :
    ((deobfuscate tools settings code).run memory).1.unresolved =
      match detect .syntactic code settings.detector with
      | none => []
      | some features =>
          ((runStrategy tools (Family.ofCode code) code
            (some features)).run memory).1.unresolved := by
  unfold deobfuscate
  cases hDetect : detect .syntactic code settings.detector with
  | none => rfl
  | some features =>
      have hFound := hExtract features hDetect
      let asked := tools.options.extractInstructions
      let instructions :=
        if asked then
          extract .syntactic code features.instructionCount
        else
          []
      have hPresent :
          (asked && instructions.isEmpty) = false := by
        cases hAsked : asked <;>
          simp [instructions, hAsked, hFound]
      change
        (if asked && instructions.isEmpty then
            [Deobfuscation.noHandlersPart features]
          else
            []) ++ _ = _
      rw [hPresent]
      rfl

/-
  Under either analysis, a detected machine has its
  instructions, and none is ever reported as missing.
-/
theorem detect_extract_agree
    (code : String)
    (settings : Settings) :
    (∀ a features,
        detect a code settings.detector = some features →
          AgreesOn a code settings.detector features) ∧
      ∀ (σ : Type) (tools : Tools σ) (memory : σ),
        ((deobfuscate tools settings code).run
            memory).1.unresolved =
          match detect .syntactic code settings.detector with
          | none => []
          | some features =>
              ((runStrategy tools (Family.ofCode code) code
                (some features)).run memory).1.unresolved := by
  have hAgrees :
      ∀ a features,
        detect a code settings.detector = some features →
          AgreesOn a code settings.detector features := by
    intro a features hDetect
    unfold detect Features.ofSignals at hDetect
    split at hDetect
    · rename_i hMachine
      cases hDetect
      have hSwitch :
          (signals a code settings.detector).hasSwitch =
            true := by
        simp only [Signals.isMachine, Bool.and_eq_true]
          at hMachine
        exact hMachine.1.1
      rcases (signals_record_switches a code
          settings.detector).dispatch hSwitch with
        ⟨hPos, place, hPlace, hFirst⟩
      have hExtract := extract_eq_switch a code hPos hFirst
      have hLength := hFirst.at_place
      rw [List.getElem?_map, hExtract] at hLength
      exact
        { count_pos := hPos
          length_eq := Option.some.inj hLength
          dispatch := ⟨place, hPlace, hFirst, hExtract⟩
          labels_ascending := fun offset body =>
            CodeMap.switchBody?_labels_ascending }
    · cases hDetect
  refine ⟨hAgrees, ?_⟩
  intro σ tools memory
  apply deobfuscate_unresolved
  intro features hDetect hNone
  have hAgreement := hAgrees .syntactic features hDetect
  have hPos := hAgreement.count_pos
  have hLength := hAgreement.length_eq
  rw [hNone, List.length_nil] at hLength
  omega

/- A machine with one instruction, seen by eager settings. -/
def smallestMachine : String :=
  "for(;;)switch(a[i++])\x7bcase 0:\x7d"

def eagerSettings : Settings :=
  { detector := { minSwitchCases := 0 } }

/- A machine with three switch statements, two of them equal. -/
def threeSwitches : String :=
  "for(;;)\x7bswitch(a[i++])\x7bcase 0:\x7d"
    ++ "switch(b)\x7bcase 1:case 2:\x7d"
    ++ "switch(c)\x7bcase 3:default:\x7d\x7d"

/- The text shows the second statement as the first greatest. -/
theorem threeSwitches_noted :
    let m := CodeMap.ofText threeSwitches
    Lexical.noteSwitches m eagerSettings.detector 0
        (m.keywordOffsets "switch") {} =
      { maxCases := 2, ordinal := some 1, hasSwitch := true } := by
  intro m
  have hCases : m.keywordOffsets "case" = [23, 41, 48, 66] := by
    decide +kernel
  have hDefaults : m.keywordOffsets "default" = [73] := by
    decide +kernel
  have hSwitches : m.keywordOffsets "switch" = [8, 31, 56] := by
    decide +kernel
  have hLabels : m.labelOffsets = [23, 41, 48, 66, 73] := by
    rw [CodeMap.labelOffsets_of_pairwise, hCases, hDefaults]
    · rfl
    · rw [hCases, hDefaults]
      decide
  simp only [hSwitches, Lexical.noteSwitches,
    CodeMap.switchBody?, hLabels]
  decide +kernel

theorem threeSwitches_signals
    (a : Analysis) :
    let s := signals a threeSwitches eagerSettings.detector
    s.isMachine = true ∧ s.maxCases = 2 ∧
      s.ordinal = some 1 := by
  cases a with
  | syntactic => decide +kernel
  | lexical =>
      unfold signals
      simp only [Analysis.tree?, Lexical.signals,
        threeSwitches_noted]
      decide +kernel

/-
  Both analyses find the second of the three statements, and
  extraction gives its two instructions.
-/
theorem threeSwitches_agree :
    (∃ features,
      detect .syntactic threeSwitches
          eagerSettings.detector = some features ∧
        features.instructionCount = 2 ∧
        (signals .syntactic threeSwitches
          eagerSettings.detector).ordinal = some 1 ∧
        AgreesOn .syntactic threeSwitches
          eagerSettings.detector features) ∧
      ∃ features,
        detect .lexical threeSwitches
            eagerSettings.detector = some features ∧
          features.instructionCount = 2 ∧
          (signals .lexical threeSwitches
            eagerSettings.detector).ordinal = some 1 ∧
          AgreesOn .lexical threeSwitches
            eagerSettings.detector features := by
  have hFound (a : Analysis) :
      ∃ features,
        detect a threeSwitches eagerSettings.detector =
            some features ∧
          features.instructionCount = 2 ∧
          (signals a threeSwitches
            eagerSettings.detector).ordinal = some 1 ∧
          AgreesOn a threeSwitches eagerSettings.detector
            features := by
    rcases threeSwitches_signals a with
      ⟨hMachine, hCount, hOrdinal⟩
    have hDetected :
        ∃ features,
          detect a threeSwitches eagerSettings.detector =
              some features ∧
            features.instructionCount = 2 :=
      ⟨_, if_pos hMachine, hCount⟩
    rcases hDetected with ⟨features, hFeatures, hTwo⟩
    exact
      ⟨features, hFeatures, hTwo, hOrdinal,
        (detect_extract_agree threeSwitches eagerSettings).1 a
          features hFeatures⟩
  exact ⟨hFound .syntactic, hFound .lexical⟩

end Devirt

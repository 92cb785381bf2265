import Devirt.Extraction.Extract
import Devirt.Proofs.Source.Brackets
import Devirt.Proofs.Source.Keywords

/-
  The search in the text of a script breaks off nowhere.

  Each step of the search is written once more with all of its
  checks: a closing bracket is asked of a given closer, cells
  and characters must lie inside the script, and texts are cut
  between characters.  All checks pass, and the results are
  those of the search without them.

  Main declarations:
    * `CodeMap.switchBodyBy`, `Lexical.signalsBy`, `detectBy`,
      `Lexical.instructionsBy`
    * `CodeMap.switchBodyBy_settles`
    * `Lexical.signalsBy_settles`, `detectBy_settles`
    * `Lexical.instructionsBy_settles`
-/

------------------------------------------------------------
-- Keywords
------------------------------------------------------------

namespace Devirt

open Scanner

/-
  The numbers of a list that pass a test, which may break off.
-/
def checkedFilter
    (test : Nat → Except Fault Bool) :
    List Nat → Except Fault (List Nat)
  | [] => .ok []
  | n :: rest => do
    let passes ← test n
    let others ← checkedFilter test rest
    return if passes then n :: others else others

theorem checkedFilter_eq
    {test : Nat → Except Fault Bool}
    {p : Nat → Bool}
    (hTest : ∀ n, test n = .ok (p n))
    (ns : List Nat) :
    checkedFilter test ns = .ok (ns.filter p) := by
  induction ns with
  | nil => rfl
  | cons n rest ih =>
      rw [checkedFilter, hTest, ih, List.filter_cons]
      rfl

namespace CodeMap

/-
  Whether the byte at an offset that the script must have can
  be part of an identifier.
-/
def checkedIdentifierAt
    (m : CodeMap)
    (offset : Nat) :
    Except Fault Bool := do
  return isIdentifier (← m.byteAt offset)

def identifierBefore
    (m : CodeMap)
    (offset : Nat) :
    Except Fault Bool :=
  if offset == 0 then .ok false
  else m.checkedIdentifierAt (offset - 1)

def identifierBehind
    (m : CodeMap)
    (offset : Nat) :
    Except Fault Bool :=
  if m.size ≤ offset then .ok false
  else m.checkedIdentifierAt offset

/-
  Whether a word of the given length at an offset stands alone
  and begins with code.
-/
def checkedStandsAlone
    (m : CodeMap)
    (length offset : Nat) :
    Except Fault Bool :=
  if m.isCode offset && m.isBoundary offset then do
    let before ← m.identifierBefore offset
    let behind ← m.identifierBehind (offset + length)
    return !before && !behind
  else
    .ok false

def checkedKeywordOffsets
    (m : CodeMap)
    (word : String) :
    Except Fault (List Nat) :=
  checkedFilter (m.checkedStandsAlone (bytesOf word).length)
    (occurrences (bytesOf word) 0 0 m.bytes)

def checkedLabelOffsets
    (m : CodeMap) :
    Except Fault (List Nat) := do
  let cases ← m.checkedKeywordOffsets "case"
  let defaults ← m.checkedKeywordOffsets "default"
  return (cases ++ defaults).mergeSort

theorem checkedIdentifierAt_eq
    {m : CodeMap}
    {offset : Nat}
    (hInside : offset < m.size) :
    m.checkedIdentifierAt offset =
      .ok (m.identifierAt offset) := by
  rcases exists_byte? hInside with ⟨b, hByte⟩
  simp only [checkedIdentifierAt, byteAt, identifierAt, hByte]
  rfl

theorem identifierBefore_eq
    {m : CodeMap}
    {offset : Nat}
    (hInside : offset ≤ m.size) :
    m.identifierBefore offset =
      .ok (!(offset == 0 || !m.identifierAt (offset - 1))) := by
  unfold identifierBefore
  cases offset with
  | zero => rfl
  | succ before =>
      rw [if_neg (by simp), Nat.add_sub_cancel,
        checkedIdentifierAt_eq hInside]
      exact congrArg Except.ok (Bool.not_not _).symm

theorem identifierBehind_eq
    (m : CodeMap)
    (offset : Nat) :
    m.identifierBehind offset =
      .ok (m.identifierAt offset) := by
  unfold identifierBehind
  split_ifs with hEnd
  · have hNone : m.byte? offset = none := by
      rw [byte?_eq_getElem?]
      exact List.getElem?_eq_none (by rwa [length_bytes])
    simp [identifierAt, hNone]
  · exact checkedIdentifierAt_eq (Nat.not_le.mp hEnd)

theorem checkedStandsAlone_eq
    (m : CodeMap)
    (length offset : Nat) :
    m.checkedStandsAlone length offset =
      .ok (m.standsAlone length offset) := by
  unfold checkedStandsAlone standsAlone
  cases hHere : m.isCode offset && m.isBoundary offset with
  | false => rfl
  | true =>
      -- the byte before is read only inside the script
      have hInside : offset ≤ m.size :=
        le_size_of_isBoundary (Bool.and_eq_true_iff.mp hHere).2
      rw [if_pos rfl, identifierBefore_eq hInside,
        m.identifierBehind_eq, Bool.true_and]
      change Except.ok (!(!_) && _) = _
      rw [Bool.not_not]

theorem checkedKeywordOffsets_eq
    (m : CodeMap)
    (word : String) :
    m.checkedKeywordOffsets word =
      .ok (m.keywordOffsets word) :=
  checkedFilter_eq (m.checkedStandsAlone_eq _) _

theorem checkedLabelOffsets_eq
    (m : CodeMap) :
    m.checkedLabelOffsets = .ok m.labelOffsets := by
  unfold checkedLabelOffsets
  rw [m.checkedKeywordOffsets_eq "case",
    m.checkedKeywordOffsets_eq "default"]
  rfl

end CodeMap

end Devirt

------------------------------------------------------------
-- Bodies of Switch Statements
------------------------------------------------------------

namespace Devirt

open Scanner

namespace CodeMap

/-
  The cells between two offsets that the script must have.
-/
def cellsBetween
    (m : CodeMap)
    (start stop : Nat) :
    Except Fault (List Cell) :=
  if start ≤ stop && stop ≤ m.size then
    .ok ((m.cells.toList.drop start).take (stop - start))
  else
    .error .outside

/-
  Whether an offset labels the body between two braces.
-/
def labels
    (m : CodeMap)
    (opening close offset : Nat) :
    Except Fault Bool :=
  if opening < offset && offset < close then do
    let cells ← m.cellsBetween opening offset
    return (openBraces cells).toNat == 1
  else
    .ok false

/-
  The body of the switch statement whose keyword stands at an
  offset, with brackets found in a given way.
-/
def switchBodyBy
    (closer : Closer)
    (m : CodeMap)
    (start : Nat) :
    Except Fault (Option SwitchBody) :=
  match m.nextCode start (byte '(') with
  | none => return none
  | some paren => do
    match ← closer m paren with
    | none => return none
    | some parenClose =>
      match m.nextCode parenClose (byte '{') with
      | none => return none
      | some opening =>
        match ← closer m opening with
        | none => return none
        | some close =>
          let labels ←
            checkedFilter (m.labels opening close)
              (← m.checkedLabelOffsets)
          return some ⟨labels, close⟩

theorem cellsBetween_eq
    (m : CodeMap)
    {start stop : Nat}
    (hOrder : start ≤ stop)
    (hInside : stop ≤ m.size) :
    m.cellsBetween start stop =
      .ok ((m.cells.toList.drop start).take (stop - start)) := by
  simp [cellsBetween, hOrder, hInside]

theorem labels_eq
    {m : CodeMap}
    {close : Nat}
    (opening offset : Nat)
    (hClose : close < m.size) :
    m.labels opening close offset =
      .ok (opening < offset && offset < close &&
        m.braceDepth opening offset == 1) := by
  unfold labels
  cases hWithin :
      decide (opening < offset) && decide (offset < close) with
  | false => rfl
  | true =>
      have hBounds : opening < offset ∧ offset < close := by
        simpa using hWithin
      rw [if_pos rfl, m.cellsBetween_eq
        (Nat.le_of_lt hBounds.1) (by omega)]
      rfl

/-
  A body lies in a script: its closing brace is inside, and
  its labels are keywords before that brace.
-/
structure BodyInside
    (m : CodeMap)
    (body : SwitchBody) : Prop where
  close_lt : body.close < m.size
  label_mem : ∀ label ∈ body.labels, label ∈ m.labelOffsets
  label_lt : ∀ label ∈ body.labels, label < body.close

/-
  The search for a body settles, on what the search without
  checks gives.
-/
theorem switchBodyBy_settles
    (m : CodeMap)
    (start : Nat) :
    Settles (fun closer => m.switchBodyBy closer start)
      fun body =>
        body = m.switchBody? start ∧
          ∀ found ∈ body, m.BodyInside found := by
  unfold switchBodyBy
  cases hParen : m.nextCode start (byte '(') with
  | none => exact .pure ⟨by simp [switchBody?, hParen], by simp⟩
  | some paren =>
      have hParenCode := (nextCode_eq_some hParen).2
      apply Settles.bind
        (Settles.close (k := .round) hParenCode)
      rintro (_ | parenClose) ⟨hParenFound, -⟩
      · refine .pure ⟨?_, by simp⟩
        simp [switchBody?, close?, hParen, hParenFound]
      · dsimp only
        cases hOpening : m.nextCode parenClose (byte '{') with
        | none =>
            refine .pure ⟨?_, by simp⟩
            simp [switchBody?, close?, hParen, hParenFound,
              hOpening]
        | some opening =>
            have hOpeningCode := (nextCode_eq_some hOpening).2
            apply Settles.bind
              (Settles.close (k := .curly) hOpeningCode)
            rintro (_ | close) ⟨hFound, hClose⟩
            · refine .pure ⟨?_, by simp⟩
              simp [switchBody?, close?, hParen, hParenFound,
                hOpening, hFound]
            · have hInside :=
                (hClose close rfl).2.lt_size
              dsimp only
              rw [m.checkedLabelOffsets_eq]
              apply (Settles.given (checkedFilter_eq
                (fun offset => labels_eq opening offset hInside)
                m.labelOffsets)).bind
              rintro labels rfl
              refine .pure ⟨?_, ?_⟩
              · simp [switchBody?, close?, hParen,
                  hParenFound, hOpening, hFound]
              · rintro found ⟨⟩
                refine ⟨hInside, ?_, ?_⟩
                · intro label hLabel
                  exact (List.mem_filter.mp hLabel).1
                · intro label hLabel
                  have hBounds := (List.mem_filter.mp hLabel).2
                  simp only [Bool.and_eq_true,
                    decide_eq_true_eq] at hBounds
                  exact hBounds.1.2

end CodeMap

end Devirt

------------------------------------------------------------
-- Signals
------------------------------------------------------------

namespace Devirt

namespace Lexical

/-
  Takes note of switch statements from a number on, with
  brackets found in a given way.
-/
def noteSwitchesBy
    (closer : Closer)
    (m : CodeMap)
    (settings : DetectorSettings) :
    Nat → List Nat → Signals → Except Fault Signals
  | _, [], s => .ok s
  | ordinal, offset :: rest, s => do
    let body ← m.switchBodyBy closer offset
    let cases := (body.map (·.labels.length)).getD 0
    noteSwitchesBy closer m settings (ordinal + 1) rest
      (s.noteSwitch settings ordinal cases)

/-
  The signs found in the text of a script, with brackets found
  in a given way.
-/
def signalsBy
    (closer : Closer)
    (code : String)
    (settings : DetectorSettings) :
    Except Fault Signals := do
  let m := CodeMap.ofText code
  let masked := m.masked
  let switches ← m.checkedKeywordOffsets "switch"
  let noted ← noteSwitchesBy closer m settings 0 switches {}
  return { noted with
    hasArray := hasLongArray settings.minArrayElements masked
    hasCounter := hasCounter settings.maxCounterLength masked
    hasApply := apply.occurs masked
    hasLoop := endlessLoop.occurs masked
    hasDecode := decode.occurs masked }

theorem noteSwitchesBy_settles
    (m : CodeMap)
    (settings : DetectorSettings)
    (ordinal : Nat)
    (offsets : List Nat)
    (s : Signals) :
    Settles
      (fun closer =>
        noteSwitchesBy closer m settings ordinal offsets s)
      (· = noteSwitches m settings ordinal offsets s) := by
  induction offsets generalizing ordinal s with
  | nil => exact .pure rfl
  | cons offset rest ih =>
      apply (m.switchBodyBy_settles offset).bind
      rintro body ⟨rfl, -⟩
      exact ih _ _

theorem signalsBy_settles
    (code : String)
    (settings : DetectorSettings) :
    Settles (fun closer => signalsBy closer code settings)
      (· = signals code settings) := by
  apply (Settles.given ((CodeMap.ofText
    code).checkedKeywordOffsets_eq "switch")).bind
  rintro switches rfl
  apply (noteSwitchesBy_settles (CodeMap.ofText code) settings
    0 ((CodeMap.ofText code).keywordOffsets "switch") {}).bind
  rintro noted rfl
  exact .pure rfl

end Lexical

/-
  The features of the machine found in the text of a script,
  with brackets found in a given way.
-/
def detectBy
    (closer : Closer)
    (code : String)
    (settings : DetectorSettings) :
    Except Fault (Option Features) := do
  let s ← Lexical.signalsBy closer code settings
  return Features.ofSignals code s settings

theorem detectBy_settles
    (code : String)
    (settings : DetectorSettings) :
    Settles (fun closer => detectBy closer code settings)
      (· = detect .lexical code settings) := by
  apply (Lexical.signalsBy_settles code settings).bind
  rintro found rfl
  exact .pure rfl

end Devirt

------------------------------------------------------------
-- Instructions
------------------------------------------------------------

namespace Devirt

open Scanner CodeMap

namespace Lexical

/-
  The part of a text between two offsets that it must have.
-/
def partBetween
    (text : List Char)
    (start stop : Nat) :
    Except Fault (List Char) :=
  if start ≤ stop && stop ≤ text.length then
    .ok (Pattern.part text start stop)
  else
    .error .outside

/-
  The instruction of the case that begins and ends at the
  given offsets, with its header cut out of the script.
-/
def checkedInstruction
    (m : CodeMap)
    (index start stop : Nat) :
    Except Fault Instruction :=
  match (m.nextCode start (byte ':')).filter (· < stop) with
  | none => return .ofCase index none {}
  | some colon => do
    let header ← m.slice start colon
    let body ← partBetween m.masked (colon + 1) stop
    let label? :=
      (Text.dropPrefix? "case".toList header.toList).map
        fun rest => Literal.ofLabel (String.ofList rest)
    return .ofCase index label? (shape body)

def checkedInstructionsFrom
    (m : CodeMap)
    (close : Nat) :
    Nat → List Nat → Except Fault (List Instruction)
  | _, [] => .ok []
  | index, [here] => do
    return [← checkedInstruction m index here close]
  | index, here :: next :: rest => do
    let first ← checkedInstruction m index here next
    let others ←
      checkedInstructionsFrom m close (index + 1) (next :: rest)
    return first :: others

/-
  The first body with the expected number of labels among the
  switch statements at some offsets.
-/
def bodyBy
    (closer : Closer)
    (m : CodeMap)
    (expected : Nat) :
    List Nat → Except Fault (Option SwitchBody)
  | [] => .ok none
  | offset :: rest => do
    match ← m.switchBodyBy closer offset with
    | none => bodyBy closer m expected rest
    | some body =>
      if body.labels.length == expected && 0 < expected then
        return some body
      else
        bodyBy closer m expected rest

def instructionsBy
    (closer : Closer)
    (code : String)
    (expected : Nat) :
    Except Fault (List Instruction) := do
  let m := CodeMap.ofText code
  let switches ← m.checkedKeywordOffsets "switch"
  match ← bodyBy closer m expected switches with
  | none => return []
  | some body => checkedInstructionsFrom m body.close 0 body.labels

theorem partBetween_eq
    {text : List Char}
    {start stop : Nat}
    (hOrder : start ≤ stop)
    (hInside : stop ≤ text.length) :
    partBetween text start stop =
      .ok (Pattern.part text start stop) := by
  simp [partBetween, hOrder, hInside]

/- A header is cut between characters, a body inside the text. -/
theorem checkedInstruction_eq
    {m : CodeMap}
    {start stop : Nat}
    (index : Nat)
    (hStart : m.isBoundary start = true)
    (hStop : stop ≤ m.size) :
    checkedInstruction m index start stop =
      .ok (instruction m m.masked index start stop) := by
  unfold checkedInstruction instruction
  cases hColon :
      (m.nextCode start (byte ':')).filter (· < stop) with
  | none => rfl
  | some colon =>
      rcases Option.filter_eq_some_iff.mp hColon with
        ⟨hNext, hBefore⟩
      have hBefore : colon < stop := of_decide_eq_true hBefore
      rcases nextCode_eq_some hNext with ⟨hAfter, hCode⟩
      have hBoundary :=
        isBoundary_of_ascii hCode.byte?_eq (by decide)
      have hInside : stop ≤ m.masked.length := by
        simpa [masked, size] using hStop
      have hLabel :
          label? m start colon =
            (Text.dropPrefix? "case".toList
              (textOf ((m.bytes.drop start).take
                (colon - start))).toList).map fun rest =>
                  Literal.ofLabel (String.ofList rest) := by
        unfold label?
        rw [slice_eq hAfter hStart hBoundary]
        exact Option.map_eq_bind.symm
      dsimp only
      rw [slice_eq hAfter hStart hBoundary,
        partBetween_eq hBefore hInside, hLabel]
      rfl

theorem checkedInstructionsFrom_eq
    {m : CodeMap}
    {close : Nat}
    (index : Nat)
    {labels : List Nat}
    (hClose : close ≤ m.size)
    (hLabels :
      ∀ label ∈ labels,
        m.isBoundary label = true ∧ label ≤ m.size) :
    checkedInstructionsFrom m close index labels =
      .ok (instructionsFrom m m.masked close index labels) := by
  fun_induction instructionsFrom m m.masked close index labels with
  | case1 => rfl
  | case2 index here =>
      have hHere := hLabels here List.mem_cons_self
      rw [checkedInstructionsFrom,
        checkedInstruction_eq index hHere.1 hClose]
      rfl
  | case3 index here next rest ih =>
      have hHere := hLabels here List.mem_cons_self
      have hRest :
          ∀ label ∈ next :: rest,
            m.isBoundary label = true ∧ label ≤ m.size :=
        fun label hLabel =>
          hLabels label (List.mem_cons_of_mem _ hLabel)
      have hNext := hRest next List.mem_cons_self
      rw [checkedInstructionsFrom,
        checkedInstruction_eq index hHere.1 hNext.2, ih hRest]
      rfl

/- The search for the expected body settles. -/
theorem bodyBy_settles
    (m : CodeMap)
    (expected : Nat)
    (offsets : List Nat) :
    Settles (fun closer => bodyBy closer m expected offsets)
      fun body =>
        body =
            ((offsets.filterMap m.switchBody?).find? fun b =>
              b.labels.length == expected && 0 < expected) ∧
          ∀ found ∈ body, m.BodyInside found := by
  induction offsets with
  | nil => exact .pure ⟨rfl, by simp⟩
  | cons offset rest ih =>
      apply (m.switchBodyBy_settles offset).bind
      rintro (_ | body) ⟨hBody, hSpec⟩
      · rw [List.filterMap_cons_none hBody.symm]
        exact ih
      · rw [List.filterMap_cons_some hBody.symm,
          List.find?_cons]
        dsimp only
        split_ifs with hExpected
        · rw [hExpected]
          exact .pure ⟨rfl, hSpec⟩
        · rw [Bool.eq_false_iff.mpr hExpected]
          exact ih

theorem instructionsBy_settles
    (code : String)
    (expected : Nat) :
    Settles (fun closer => instructionsBy closer code expected)
      (· = instructions code expected) := by
  let m := CodeMap.ofText code
  apply (Settles.given
    (m.checkedKeywordOffsets_eq "switch")).bind
  rintro switches rfl
  apply (bodyBy_settles m expected
    (m.keywordOffsets "switch")).bind
  rintro (_ | body) ⟨hBody, hSpec⟩
  · refine .pure ?_
    unfold instructions
    dsimp only
    rw [← hBody]
  · have hFound := hSpec body rfl
    have hLabels :
        ∀ label ∈ body.labels,
          m.isBoundary label = true ∧ label ≤ m.size := by
      intro label hLabel
      have hClose := hFound.close_lt
      have hBefore := hFound.label_lt label hLabel
      exact
        ⟨labelOffsets_boundary (hFound.label_mem label hLabel),
          by omega⟩
    dsimp only
    rw [checkedInstructionsFrom_eq 0
      (Nat.le_of_lt hFound.close_lt) hLabels]
    refine .pure ?_
    unfold instructions
    dsimp only
    rw [← hBody]

end Lexical

end Devirt

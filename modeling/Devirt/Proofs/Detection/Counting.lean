import Devirt.Proofs.Detection.Agreement
import Devirt.Proofs.Detection.Tokens
import Devirt.Proofs.Script.Statements

/-
  When both analyses report the same switch statement.

  Of all switch statements a report keeps the greatest number
  of cases, whichever analysis made it, and compares it with a
  bound.  So the trees and the texts of a script agree under all
  settings once they agree on that number.

  The signs of the tokens of a script make an outline, and the
  outline has the widest switch statement of the tree.  In a
  simple script the signs also stand where the search in the
  text finds words and brackets.  So the numbers are the same,
  unless a member is named by one of the words of switch
  statements.  A text counts such a word as a label.

  Main declarations:
    * `Analysis.greatestCases`
    * `signals_report_greatest`, `analyses_agree_iff`
    * `Script.Tree.widest_eq`, `outline_spots`
    * `analyses_agree`
    * `memberLabel_disagrees`
-/

------------------------------------------------------------
-- Greatest Counts
------------------------------------------------------------

namespace Devirt

open Scanner
open Script (Bare Lexeme Outline)

/-
  The number of cases of the greatest switch statement that an
  analysis meets; none counts as zero.
-/
def Analysis.greatestCases
    (a : Analysis)
    (code : String) :
    Nat :=
  ((a.switches code).map List.length).foldr max 0

theorem lt_foldr_max_iff
    (counts : List Nat)
    (bound : Nat) :
    bound < counts.foldr max 0 ↔
      ∃ count ∈ counts, bound < count := by
  induction counts with
  | nil => simp
  | cons first rest ih =>
      have hSplit :
          bound < max first (rest.foldr max 0) ↔
            bound < first ∨ bound < rest.foldr max 0 := by
        omega
      rw [List.foldr_cons, hSplit, ih]
      simp

/- Records keep the greatest of all counts. -/
theorem Signals.Records.maxCases_eq
    {settings : DetectorSettings}
    {counts : List Nat}
    {s : Signals}
    (hRecords : s.Records settings counts) :
    s.maxCases = counts.foldr max 0 := by
  apply Nat.le_antisymm
  · by_contra hLess
    have hPos : 0 < s.maxCases := by omega
    rcases Option.isSome_iff_exists.mp
        (hRecords.ordinal_isSome hPos) with ⟨place, hPlace⟩
    have hMember :=
      List.mem_of_getElem?
        (hRecords.ordinal_first place hPlace).at_place
    have hGreater :=
      (lt_foldr_max_iff counts (counts.foldr max 0)).mpr
        ⟨s.maxCases, hMember, by omega⟩
    exact Nat.lt_irrefl _ hGreater
  · by_contra hLess
    rcases (lt_foldr_max_iff counts s.maxCases).mp
        (by omega) with ⟨count, hMember, hGreater⟩
    have hLe := hRecords.le_maxCases count hMember
    omega

/- What signals say about switch statements is one number. -/
theorem signals_report_greatest
    (a : Analysis)
    (code : String)
    (settings : DetectorSettings) :
    (signals a code settings).maxCases =
        a.greatestCases code ∧
      ((signals a code settings).hasSwitch = true ↔
        settings.minSwitchCases < a.greatestCases code) := by
  have hRecords := signals_record_switches a code settings
  refine ⟨hRecords.maxCases_eq, ?_⟩
  rw [hRecords.hasSwitch_iff]
  exact (lt_foldr_max_iff _ _).symm

/-
  Both analyses report the same switch statement under all
  settings as soon as they count the same greatest number of
  cases under one.
-/
theorem analyses_agree_iff
    (code : String)
    (settings : DetectorSettings) :
    (signals .lexical code settings).maxCases =
        (signals .syntactic code settings).maxCases ↔
      ∀ other,
        (signals .lexical code other).maxCases =
            (signals .syntactic code other).maxCases ∧
          (signals .lexical code other).hasSwitch =
            (signals .syntactic code other).hasSwitch := by
  constructor
  · intro hSame other
    have hGreatest :
        Analysis.lexical.greatestCases code =
          Analysis.syntactic.greatestCases code := by
      rw [← (signals_report_greatest .lexical code settings).1,
        hSame,
        (signals_report_greatest .syntactic code settings).1]
    rcases signals_report_greatest .lexical code other with
      ⟨hLexicalMax, hLexicalSwitch⟩
    rcases signals_report_greatest .syntactic code other with
      ⟨hSyntacticMax, hSyntacticSwitch⟩
    refine ⟨?_, ?_⟩
    · rw [hLexicalMax, hSyntacticMax, hGreatest]
    · rw [Bool.eq_iff_iff, hLexicalSwitch, hSyntacticSwitch,
        hGreatest]
  · intro hAll
    exact (hAll settings).1

------------------------------------------------------------
-- The Widest Statement of a Tree
------------------------------------------------------------

theorem foldr_max_le_iff
    (counts : List Nat)
    (bound : Nat) :
    counts.foldr max 0 ≤ bound ↔
      ∀ count ∈ counts, count ≤ bound := by
  rw [← not_lt, lt_foldr_max_iff]
  simp only [not_exists, not_and, not_lt]

theorem foldr_max_append
    (counts more : List Nat) :
    (counts ++ more).foldr max 0 =
      max (counts.foldr max 0) (more.foldr max 0) := by
  induction counts with
  | nil => simp
  | cons first rest ih => simp [ih, Nat.max_assoc]

namespace Script.Tree

mutual

theorem widest_eq
    (t : Tree) :
    t.widest = (t.nodes.map caseCount).foldr max 0 := by
  cases t with
  | node l ps =>
      rw [widest, nodes, List.map_cons, List.foldr_cons,
        widestOf_eq ps]

theorem widestOf_eq
    (ts : List Tree) :
    widestOf ts = ((nodesOf ts).map caseCount).foldr max 0 := by
  cases ts with
  | nil => rfl
  | cons t ts =>
      rw [widestOf, nodesOf, List.map_append, foldr_max_append,
        widest_eq t, widestOf_eq ts]

end

/- Nodes that are no switch statements have no cases. -/
theorem foldr_max_switches
    (ts : List Tree) :
    ((ts.filterMap Syntactic.switchCases?).map
        List.length).foldr max 0 =
      (ts.map caseCount).foldr max 0 := by
  induction ts with
  | nil => rfl
  | cons t ts ih =>
      cases hCases : Syntactic.switchCases? t with
      | some cases =>
          rcases Syntactic.eq_switch_of_switchCases? hCases with
            ⟨subject, rfl⟩
          rw [List.filterMap_cons_some hCases, List.map_cons,
            List.map_cons, List.foldr_cons, List.foldr_cons, ih]
          rfl
      | none =>
          have hNone : caseCount t = 0 := by
            unfold caseCount
            split
            · cases hCases
            · rfl
          rw [List.filterMap_cons_none hCases, ih, List.map_cons,
            List.foldr_cons, hNone, Nat.zero_max]

end Script.Tree

/- The tree of a script has the widest switch statement. -/
theorem syntactic_greatestCases
    {code : String}
    {t : Script.Tree}
    (hParse : Script.Tree.parse? code = some t) :
    Analysis.syntactic.greatestCases code = t.widest := by
  have hTree : Analysis.syntactic.tree? code = some t := hParse
  have hSwitches :
      (Analysis.syntactic.switches code).map List.length =
        (Syntactic.switches t).map List.length := by
    unfold Analysis.switches
    rw [hTree]
    simp [Function.comp_def]
  unfold Analysis.greatestCases
  rw [hSwitches, t.widest_eq]
  exact Script.Tree.foldr_max_switches t.nodes

/- A report on a tree says how wide that statement is. -/
theorem syntactic_report
    {code : String}
    {t : Script.Tree}
    (hParse : Script.Tree.parse? code = some t)
    (settings : DetectorSettings) :
    (signals .syntactic code settings).maxCases = t.widest ∧
      ((signals .syntactic code settings).hasSwitch = true ↔
        settings.minSwitchCases < t.widest) := by
  rw [← syntactic_greatestCases hParse]
  exact signals_report_greatest .syntactic code settings

------------------------------------------------------------
-- The Widest Statement of a Text
------------------------------------------------------------

/- The text has no statement wider than a bound. -/
theorem lexical_greatestCases_le_iff
    (code : String)
    (bound : Nat) :
    Analysis.lexical.greatestCases code ≤ bound ↔
      ∀ offset,
        (CodeMap.ofText code).Stands "switch" offset →
          Lexical.caseCount (CodeMap.ofText code) offset ≤
            bound := by
  have hSwitches :
      (Analysis.lexical.switches code).map List.length =
        ((CodeMap.ofText code).keywordOffsets "switch").map
          (Lexical.caseCount (CodeMap.ofText code)) := by
    change
      (((CodeMap.ofText code).keywordOffsets "switch").map
        (Lexical.lifted (CodeMap.ofText code))).map
          List.length = _
    simp [Function.comp_def, Lexical.length_lifted]
  unfold Analysis.greatestCases
  rw [hSwitches, foldr_max_le_iff, List.forall_mem_map]
  simp only [CodeMap.mem_keywordOffsets_iff _
    (isIdentifierWord_words "switch" (by simp))]

theorem ofText_eq_ofBytes
    {code : String}
    (hAscii : ∀ c ∈ code.toList, c.toNat < 128) :
    CodeMap.ofText code =
      CodeMap.ofBytes (code.toList.map byte) := by
  rw [CodeMap.ofText, ← bytesOf_ofList hAscii,
    String.ofList_toList]

/- The signs of a simple script stand all over its text. -/
theorem outline_spots
    {code : String}
    {t : Script.Tree}
    (hSimple : Script.IsSimple code.toList)
    (hLine : ¬ ['#', '!'] <+: code.toList)
    (hParse : Script.Tree.parse? code = some t)
    (hMembers : t.borrows = false) :
    ∃ signs,
      Outline signs 0 t.widest ∧
        (CodeMap.ofText code).Spots signs 0
          (CodeMap.ofText code).size := by
  rcases Script.Tree.parse?_depicts hSimple.bare hParse with
    ⟨ls, last, rest, hTaken, hNext, hStop, hDepicts⟩
  have hStart :
      Script.Lexer.dropInterpreterLine code.toList =
        code.toList := by
    unfold Script.Lexer.dropInterpreterLine
    split
    · next cs hChars =>
        rw [hChars] at hLine
        exact absurd ⟨cs, rfl⟩ hLine
    · rfl
  rw [hStart] at hTaken
  have hAll := hTaken.append (.cons hNext (.nil last.rest))
  have hReady :
      CodeMap.Ready (code.toList.map byte) []
        (code.toList.map byte) 0 :=
    ⟨rfl, Nat.le_refl _, fun _ _ _ => nofun, topAt_zero _,
      Or.inl nofun⟩
  have hLast : last.rest = [] := by
    have hEnd := hTaken.bare hSimple.bare
    rcases Lexeme.spelled_of_next? hEnd hNext with
      ⟨_, text, -, -, hSpelled⟩
    rw [hStop] at hSpelled
    exact hSpelled.rest_of_stop
  rcases CodeMap.spots_of_taken hSimple hAll hReady with
    ⟨used, hUsed, hSpots⟩
  refine ⟨ls.map Lexeme.sign ++ [.other], ?_, ?_⟩
  · have hOutline :=
      hDepicts.outline
        (by simp [Script.Tree.anyBorrows, hMembers])
    exact (hOutline.append .other).cast rfl rfl
      (by simp [Script.Tree.widestOf])
  · have hSigns :
        (ls ++ [last]).map Lexeme.sign =
          ls.map Lexeme.sign ++ [.other] := by
      simp [Lexeme.sign, Script.Token.sign, hStop]
    have hSize :
        (CodeMap.ofBytes (code.toList.map byte)).size =
          used.length := by
      rw [← CodeMap.length_bytes, CodeMap.bytes_ofBytes,
        List.length_map, hUsed, hLast, List.append_nil]
    rw [hSigns, List.length_nil, Nat.zero_add] at hSpots
    rwa [ofText_eq_ofBytes hSimple.ascii, hSize]

------------------------------------------------------------
-- Agreement
------------------------------------------------------------

/- Both analyses of a simple script meet the same statement. -/
theorem greatestCases_eq
    {code : String}
    {t : Script.Tree}
    (hSimple : Script.IsSimple code.toList)
    (hLine : ¬ ['#', '!'] <+: code.toList)
    (hParse : Script.Tree.parse? code = some t)
    (hMembers : t.borrows = false) :
    Analysis.lexical.greatestCases code =
      Analysis.syntactic.greatestCases code := by
  rcases outline_spots hSimple hLine hParse hMembers with
    ⟨signs, hOutline, hSpots⟩
  have hRegion := hSpots.region hOutline
  have hBound :
      ∀ bound,
        Analysis.lexical.greatestCases code ≤ bound ↔
          t.widest ≤ bound := by
    intro bound
    rw [lexical_greatestCases_le_iff, hRegion.width_le_iff]
    constructor
    · exact fun hAll offset _ _ => hAll offset
    · intro hAll offset hStands
      refine hAll offset (Nat.zero_le _) ?_ hStands
      rcases hStands.exists_hasCode
          (isIdentifierWord_words "switch" (by simp))
        with ⟨b, hHere, -⟩
      exact hHere.lt_size
  rw [syntactic_greatestCases hParse]
  exact
    Nat.le_antisymm ((hBound _).mpr (Nat.le_refl _))
      ((hBound _).mp (Nat.le_refl _))

/-
  Take a script that can be read, of ASCII characters none of
  which begins a comment, a regular expression, a template or an
  escape, and with no line that names an interpreter.  If it
  names no member by one of the words of switch statements, both
  analyses report the same under all settings.
-/
theorem analyses_agree
    {code : String}
    {t : Script.Tree}
    (hParse : Script.Tree.parse? code = some t)
    (hSimple : Script.IsSimple code.toList)
    (hLine : ¬ ['#', '!'] <+: code.toList)
    (hMembers : t.borrows = false)
    (settings : DetectorSettings) :
    (signals .lexical code settings).maxCases =
        (signals .syntactic code settings).maxCases ∧
      (signals .lexical code settings).hasSwitch =
        (signals .syntactic code settings).hasSwitch := by
  have hSame := greatestCases_eq hSimple hLine hParse hMembers
  have hMax :
      (signals .lexical code settings).maxCases =
        (signals .syntactic code settings).maxCases := by
    rw [(signals_report_greatest .lexical code settings).1, hSame,
      (signals_report_greatest .syntactic code settings).1]
  exact (analyses_agree_iff code settings).mp hMax settings

/- Statements in each other, and labels in strings and calls. -/
def nestedSwitches : String :=
  "switch (f(x)) \x7b case 0: g('case 1'); break; " ++
    "case 1: switch (y) \x7b default: h(\x7ba: 2\x7d); \x7d \x7d"

theorem nestedSwitches_agree :
    ∃ t,
      Script.Tree.parse? nestedSwitches = some t ∧
        t.borrows = false ∧
          (signals .syntactic nestedSwitches
            { minSwitchCases := 1 }).maxCases = 2 ∧
          (signals .lexical nestedSwitches
            { minSwitchCases := 1 }).maxCases = 2 ∧
          (signals .lexical nestedSwitches
            { minSwitchCases := 1 }).hasSwitch = true := by
  have hTree :
      (Script.Tree.parse? nestedSwitches).map
          (fun t => (t.borrows, t.widest)) =
        some (false, 2) := by
    decide +kernel
  rcases Option.map_eq_some_iff.mp hTree with
    ⟨t, hParse, hPair⟩
  rcases Prod.mk.inj hPair with ⟨hMembers, hWidest⟩
  have hSimple : Script.IsSimple nestedSwitches.toList := by
    decide +kernel
  have hLine : ¬ ['#', '!'] <+: nestedSwitches.toList := by
    decide +kernel
  rcases syntactic_report hParse { minSwitchCases := 1 } with
    ⟨hCount, hReport⟩
  rw [hWidest] at hCount hReport
  rcases analyses_agree hParse hSimple hLine hMembers
      { minSwitchCases := 1 } with ⟨hMax, hSwitch⟩
  exact
    ⟨t, hParse, hMembers, hCount, hMax.trans hCount,
      hSwitch.trans (hReport.mpr (by decide))⟩

/- A switch statement with one case, which calls a member. -/
def memberLabel : String :=
  "switch (a) \x7b case 0: b.default(); \x7d"

/-
  The name of the member counts as a second label of the
  text, so a bound of one separates the analyses.
-/
theorem memberLabel_disagrees :
    (Script.Tree.parse? memberLabel).isSome = true ∧
      (signals .syntactic memberLabel
          { minSwitchCases := 1 }).maxCases = 1 ∧
      (signals .syntactic memberLabel
          { minSwitchCases := 1 }).hasSwitch = false ∧
      (signals .lexical memberLabel
          { minSwitchCases := 1 }).maxCases = 2 ∧
      (signals .lexical memberLabel
          { minSwitchCases := 1 }).hasSwitch = true := by
  let m := CodeMap.ofText memberLabel
  have hLabels : m.labelOffsets = [13, 23] := by
    have hOrder :
        (m.keywordOffsets "case" ++
          m.keywordOffsets "default").Pairwise (· ≤ ·) := by
      decide +kernel
    rw [CodeMap.labelOffsets_of_pairwise hOrder]
    decide +kernel
  have hBody :
      (m.switchBody? 0).map (·.labels.length) = some 2 := by
    simp only [CodeMap.switchBody?, hLabels]
    decide +kernel
  have hSwitches : m.keywordOffsets "switch" = [0] := by
    decide +kernel
  have hGreatest :
      Analysis.lexical.greatestCases memberLabel = 2 := by
    have hCount : Lexical.caseCount m 0 = 2 := by
      rw [Lexical.caseCount, hBody]
      rfl
    change
      (((m.keywordOffsets "switch").map
        (Lexical.lifted m)).map List.length).foldr max 0 = 2
    rw [hSwitches]
    simp [Lexical.length_lifted, hCount]
  rcases signals_report_greatest .lexical memberLabel
      { minSwitchCases := 1 } with ⟨hMax, hSwitch⟩
  rw [hGreatest] at hMax hSwitch
  have hTree :
      (Script.Tree.parse? memberLabel).map
        Script.Tree.widest = some 1 := by
    decide +kernel
  rcases Option.map_eq_some_iff.mp hTree with
    ⟨t, hParse, hWidest⟩
  rcases syntactic_report hParse { minSwitchCases := 1 } with
    ⟨hCount, hReport⟩
  rw [hWidest] at hCount hReport
  exact
    ⟨by rw [hParse]; rfl, hCount,
      Bool.eq_false_iff.mpr fun hTrue =>
        absurd (hReport.mp hTrue) (by decide),
      hMax, hSwitch.mpr (by decide)⟩

end Devirt

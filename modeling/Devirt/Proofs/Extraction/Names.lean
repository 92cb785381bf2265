import Devirt.Extraction.Extract
import Devirt.Proofs.Detection.Bodies
import Devirt.Proofs.Extraction.Labels

/-
  The names of extracted instructions.

  An instruction is named after the label of its case, and the
  default case after its place.  Different labels have different
  names with few exceptions: a string can spell another label,
  strings in a tree can have single halves that are written like
  their escapes, and the place of the default case can be the
  number of another one.  In a text the label has to be a literal
  alone, for comments are taken for parts of it, and no octal
  numeral behind a zero, for its digits are taken for decimal
  ones.

  Main declarations:
    * `NamedCase`, `namedCases`
    * `Syntactic.namedCase?_shows`, `Lexical.namedCase?_shows`
    * `CaseLabel.Coincides`, `NamedCase.Shows.coincides`
    * `extract_names`
-/

namespace Devirt

open Script

------------------------------------------------------------
-- Labels of Cases
------------------------------------------------------------

/- The label of a case, and how it shows in the name of the case. -/
structure NamedCase where
  label : CaseLabel
  title : String
  deriving DecidableEq

namespace NamedCase

def name (c : NamedCase) : String :=
  "op_" ++ c.title

end NamedCase

namespace Syntactic

/- The label that a test is, or the lack of a test. -/
def label? : Label → Option CaseLabel
  | .absent => some .default
  | .number x =>
    if h : Decimal.IsNumeral x then some (.number x h) else none
  | .bigint n => some (.bigint n)
  | .string s => some (.string s)
  | .bool b => some (.bool b)
  | .null => some .null
  | _ => none

/- How a label shows, with its place for the default case. -/
def title (place : Nat) : CaseLabel → String
  | .default => Decimal.describe (Decimal.ofNat place)
  | .number x _ => Decimal.describe x
  | .bigint n => toString n ++ "n"
  | .string s => Tree.writeUnits s
  | .bool b => if b then "true" else "false"
  | .null => "null"

/- A case of a tree whose test is a literal, or is left out. -/
def namedCase? (place : Nat) : Tree → Option NamedCase
  | .node .switchCase (.node l _ :: _) =>
    (label? l).map fun l => ⟨l, title place l⟩
  | _ => none

end Syntactic

namespace Lexical

/-
  How a label shows that is written in a text: a string loses its
  quotes, plain digits are a number, and all else stays as it is.
-/
def title (u : List Char) : CaseLabel → String
  | .string _ => String.ofList (u.drop 1).dropLast
  | _ =>
    match Literal.number? (String.ofList u) with
    | some x => Decimal.describe x
    | none => String.ofList u

/-
  The case whose label is written between two offsets: a literal
  between blanks, and not an octal one behind a zero.
-/
def namedCase?
    (m : CodeMap)
    (place start stop : Nat) :
    Option NamedCase := do
  let colon ← (m.nextCode start (Scanner.byte ':')).filter (· < stop)
  let header ← (m.slice start colon).toOption
  match Text.dropPrefix? "case".toList header.toList with
  | some rest =>
    let u := (Text.trim (String.ofList rest)).toList
    if Lexer.isOctal u then none
    else (CaseLabel.ofText? u).map fun l => ⟨l, title u l⟩
  | none =>
    if Text.startsWith "default".toList header.toList then
      some ⟨.default, Decimal.describe (Decimal.ofNat place)⟩
    else
      none

end Lexical

/-
  How a case shows: a string by its text, which a tree writes
  with escapes for single halves, and any other label by its
  title.
-/
structure NamedCase.Shows
    (parsed : Bool)
    (place : Nat)
    (c : NamedCase) : Prop where
  titled :
    c.label.isString = false →
      CaseLabel.Titled place c.label c.title
  string :
    ∀ s, c.label = .string s →
      if parsed then c.title = Tree.writeUnits s
      else Lexer.Contents c.title.toList s.units.toList

theorem Instruction.name_ofCase
    (place : Nat)
    (l : Option Literal)
    (shape : Shape) :
    (Instruction.ofCase place l shape).name =
      "op_" ++ (l.getD (.number (Decimal.ofNat place))).describe :=
  rfl

namespace Syntactic

open Decimal

theorem describe_ofLabel_write
    {x : Float}
    (hNumeral : IsNumeral x) :
    (Literal.ofLabel (plain.write x)).describe = describe x := by
  rcases hNumeral.cases with hMagnitude | rfl
  · rw [Literal.ofLabel, Literal.number?_write hMagnitude]
    rfl
  · rw [describe_infinity]
    decide

theorem bigint_text
    (n : Nat) :
    toString n ++ "n" =
      String.ofList (Nat.toDigits 10 n ++ ['n']) := by
  rw [String.ofList_append]
  rfl

theorem ofText?_bigint
    (n : Nat) :
    CaseLabel.ofText? (Nat.toDigits 10 n ++ ['n']) =
      some (.bigint n) := by
  have hOther :
      ∀ w : List Char,
        w.getLast? ≠ some 'n' → Nat.toDigits 10 n ++ ['n'] ≠ w := by
    rintro w hLast rfl
    exact hLast (by simp)
  rw [CaseLabel.ofText?, if_neg (hOther _ (by decide)),
    if_neg (hOther _ (by decide)), if_neg (hOther _ (by decide)),
    Lexer.token?_bigint]
  rfl

/- The labels that are spelled as they show. -/
def IsSpelled (label : CaseLabel) : Prop :=
  (∃ n, label = .bigint n) ∨ (∃ b, label = .bool b) ∨ label = .null

/- They are read back as themselves, and not as numbers. -/
theorem title_written
    (place : Nat)
    {label : CaseLabel}
    (hSpelled : IsSpelled label) :
    Literal.number? (title place label) = none ∧
      CaseLabel.ofText? (title place label).toList = some label ∧
        Text.trim (title place label) = title place label := by
  rcases hSpelled with ⟨n, rfl⟩ | ⟨b, rfl⟩ | rfl
  · rw [title, bigint_text, String.toList_ofList]
    exact
      ⟨Literal.number?_bigint n, ofText?_bigint n,
        Literal.trim_bigint n⟩
  · cases b
    · have hNumber : Literal.number? "false" = none := by decide
      have hText :
          CaseLabel.ofText? "false".toList = some (.bool false) :=
        rfl
      have hTrim : Text.trim "false" = "false" := by decide
      exact ⟨hNumber, hText, hTrim⟩
    · have hNumber : Literal.number? "true" = none := by decide
      have hText :
          CaseLabel.ofText? "true".toList = some (.bool true) :=
        rfl
      have hTrim : Text.trim "true" = "true" := by decide
      exact ⟨hNumber, hText, hTrim⟩
  · have hNumber : Literal.number? "null" = none := by decide
    have hText : CaseLabel.ofText? "null".toList = some .null := rfl
    have hTrim : Text.trim "null" = "null" := by decide
    exact ⟨hNumber, hText, hTrim⟩

theorem describe_ofLabel_title
    (place : Nat)
    {label : CaseLabel}
    (hSpelled : IsSpelled label) :
    (Literal.ofLabel (title place label)).describe =
      title place label := by
  obtain ⟨hNumber, hText, hTrim⟩ := title_written place hSpelled
  have hString : label.isString = false := by
    rcases hSpelled with ⟨n, rfl⟩ | ⟨b, rfl⟩ | rfl <;> rfl
  rw [Literal.describe_ofLabel, hTrim, hNumber]
  rw [hTrim]
  exact CaseLabel.ofText?_unquoted hText hString

theorem titled_title
    {place : Nat}
    {label : CaseLabel}
    (hString : label.isString = false) :
    CaseLabel.Titled place label (title place label) := by
  have hWritten :
      IsSpelled label →
        CaseLabel.Titled place label (title place label) := by
    intro hSpelled
    have hTitle := title_written place hSpelled
    exact .written hTitle.1 hTitle.2.1
  cases label with
  | default => exact .default rfl
  | number x hNumeral => exact .number hNumeral rfl
  | bigint n => exact hWritten (Or.inl ⟨n, rfl⟩)
  | string s => cases hString
  | bool b => exact hWritten (Or.inr (Or.inl ⟨b, rfl⟩))
  | null => exact hWritten (Or.inr (Or.inr rfl))

theorem describe_ofLabel_string
    (s : Units) :
    (Literal.ofLabel ("\"" ++ Tree.writeUnits s ++ "\"")).describe =
      Tree.writeUnits s := by
  have hText :
      "\"" ++ Tree.writeUnits s ++ "\"" =
        String.ofList ('"' :: ((Tree.writeUnits s).toList ++ ['"'])) := by
    rw [← String.toList_inj]
    simp
  have hTrim :=
    congrArg String.toList
      (Literal.trim_quoted (Or.inl rfl) (Tree.writeUnits s).toList)
  rw [String.toList_ofList] at hTrim
  rw [hText, Literal.ofLabel_quoted hTrim (Or.inl rfl),
    String.ofList_toList]
  rfl

/- A test that is a literal, as it is written. -/
theorem name_instruction
    {place : Nat}
    {l : Label}
    {ps body : List Tree}
    {label : CaseLabel}
    (hLabel : label? l = some label) :
    (instruction place (.node .switchCase (.node l ps :: body))).name =
      "op_" ++ title place label := by
  have hTest :
      l ≠ .absent →
        (instruction place
            (.node .switchCase (.node l ps :: body))).name =
          "op_" ++
            (Literal.ofLabel (Script.Tree.node l ps).render).describe := by
    intro hPresent
    have hOther :
        ∀ parts, Script.Tree.node l ps = .node .absent parts → False := by
      rintro parts hSame
      cases hSame
      exact hPresent rfl
    rw [instruction.eq_2 _ _ _ hOther, Instruction.name_ofCase,
      Option.getD_some]
  unfold label? at hLabel
  split at hLabel
  · cases hLabel
    rw [instruction.eq_1, Instruction.name_ofCase, Option.getD_none]
    rfl
  · next x =>
      split_ifs at hLabel with hNumeral
      cases hLabel
      have hText :
          (Script.Tree.node (.number x) ps).render = plain.write x :=
        rfl
      rw [hTest Label.noConfusion, hText,
        describe_ofLabel_write hNumeral]
      rfl
  · next n =>
      cases hLabel
      have hText :
          (Script.Tree.node (.bigint n) ps).render =
            title place (.bigint n) :=
        rfl
      rw [hTest Label.noConfusion, hText,
        describe_ofLabel_title place (Or.inl ⟨n, rfl⟩)]
  · next s =>
      cases hLabel
      have hText :
          (Script.Tree.node (.string s) ps).render =
            "\"" ++ Tree.writeUnits s ++ "\"" :=
        rfl
      rw [hTest Label.noConfusion, hText, describe_ofLabel_string]
      rfl
  · next b =>
      cases hLabel
      have hText :
          (Script.Tree.node (.bool b) ps).render =
            title place (.bool b) :=
        rfl
      rw [hTest Label.noConfusion, hText,
        describe_ofLabel_title place (Or.inr (Or.inl ⟨b, rfl⟩))]
  · cases hLabel
    have hText :
        (Script.Tree.node .null ps).render = title place .null :=
      rfl
    rw [hTest Label.noConfusion, hText,
      describe_ofLabel_title place (Or.inr (Or.inr rfl))]
  · cases hLabel

theorem namedCase?_shows
    {place : Nat}
    {t : Tree}
    {c : NamedCase}
    (hCase : namedCase? place t = some c) :
    c.Shows true place ∧ (instruction place t).name = c.name := by
  unfold namedCase? at hCase
  split at hCase
  · next l ps body =>
      obtain ⟨label, hLabel, rfl⟩ := Option.map_eq_some_iff.mp hCase
      refine ⟨⟨titled_title, ?_⟩, name_instruction hLabel⟩
      rintro s rfl
      rfl
  · cases hCase

end Syntactic

namespace Lexical

theorem titled_title
    (place : Nat)
    {s : String}
    {label : CaseLabel}
    (hText : CaseLabel.ofText? (Text.trim s).toList = some label)
    (hDecimal : Lexer.isOctal (Text.trim s).toList = false)
    (hString : label.isString = false) :
    CaseLabel.Titled place label
        (title (Text.trim s).toList label) ∧
      title (Text.trim s).toList label =
        (Literal.ofLabel s).describe := by
  have hTitle :
      title (Text.trim s).toList label =
        match Literal.number? (Text.trim s) with
        | some x => Decimal.describe x
        | none => Text.trim s := by
    cases label with
    | string _ => cases hString
    | _ => simp only [title, String.ofList_toList]
  refine ⟨?_, ?_⟩
  · rw [hTitle]
    cases hNumber : Literal.number? (Text.trim s) with
    | none => exact .written hNumber hText
    | some x =>
        rw [Literal.number?_trim] at hNumber
        obtain ⟨hNumeral, rfl⟩ :=
          CaseLabel.ofText?_numeral rfl hNumber hText hDecimal hString
        exact .number hNumeral rfl
  · have hDescribed :=
      Literal.describe_ofLabel
        (CaseLabel.ofText?_unquoted hText hString)
    cases hNumber : Literal.number? (Text.trim s) with
    | none =>
        rw [hNumber] at hTitle hDescribed
        exact hTitle.trans hDescribed.symm
    | some x =>
        rw [hNumber] at hTitle hDescribed
        exact hTitle.trans hDescribed.symm

theorem title_string
    {s : String}
    {t : Units}
    (hText :
      CaseLabel.ofText? (Text.trim s).toList = some (.string t)) :
    Lexer.Contents (title (Text.trim s).toList (.string t)).toList
        t.units.toList ∧
      title (Text.trim s).toList (.string t) =
        (Literal.ofLabel s).describe := by
  obtain ⟨q, body, units, hQuote, hTrim, hContents, rfl⟩ :=
    CaseLabel.ofText?_string hText
  have hTitle :
      title (Text.trim s).toList (.string ⟨units.toArray⟩) =
        String.ofList body := by
    rw [hTrim]
    simp [title]
  rw [hTitle, Literal.ofLabel_quoted hTrim hQuote, String.toList_ofList]
  exact ⟨hContents, rfl⟩

theorem namedCase?_shows
    {m : CodeMap}
    {masked : List Char}
    {place start stop : Nat}
    {c : NamedCase}
    (hCase : namedCase? m place start stop = some c) :
    c.Shows false place ∧
      (instruction m masked place start stop).name = c.name := by
  unfold namedCase? at hCase
  obtain ⟨colon, hColon, hCase⟩ := Option.bind_eq_some_iff.mp hCase
  obtain ⟨header, hHeader, hCase⟩ := Option.bind_eq_some_iff.mp hCase
  have hName :
      (instruction m masked place start stop).name =
        "op_" ++
          ((label? m start colon).getD
            (.number (Decimal.ofNat place))).describe := by
    simp only [instruction, hColon]
    rfl
  have hLabel :
      label? m start colon =
        (Text.dropPrefix? "case".toList header.toList).map fun rest =>
          Literal.ofLabel (String.ofList rest) := by
    rw [label?, hHeader]
    change
      ((Text.dropPrefix? "case".toList header.toList).bind fun rest =>
          some (Literal.ofLabel (String.ofList rest))) = _
    cases Text.dropPrefix? "case".toList header.toList <;> rfl
  rw [hName, hLabel]
  split at hCase
  · next rest hRest =>
      dsimp only at hCase
      split_ifs at hCase with hOctal
      obtain ⟨label, hText, rfl⟩ := Option.map_eq_some_iff.mp hCase
      rw [hRest, Option.map_some, Option.getD_some]
      rw [Bool.not_eq_true] at hOctal
      cases hString : label.isString with
      | true =>
          cases label with
          | string t =>
              obtain ⟨hContents, hTitle⟩ := title_string hText
              refine
                ⟨⟨fun hOther => ?_, fun s hSame => ?_⟩,
                  congrArg ("op_" ++ ·) hTitle.symm⟩
              · cases hOther
              · cases hSame
                exact hContents
          | _ => cases hString
      | false =>
          obtain ⟨hTitled, hTitle⟩ :=
            titled_title place hText hOctal hString
          refine
            ⟨⟨fun _ => hTitled, fun s hSame => ?_⟩,
              congrArg ("op_" ++ ·) hTitle.symm⟩
          subst hSame
          cases hString
  · next hRest =>
      split_ifs at hCase
      cases hCase
      rw [hRest]
      refine ⟨⟨fun _ => .default rfl, fun s hSame => ?_⟩, rfl⟩
      cases hSame

end Lexical

------------------------------------------------------------
-- Coincidences
------------------------------------------------------------

/-
  The ways in which different labels can have the same title: a
  string spells another label, two strings in a tree have single
  halves that are written alike, or the place of the default case
  is the number of another case.
-/
inductive CaseLabel.Coincides
    (parsed : Bool)
    (place : Nat) :
    CaseLabel → CaseLabel → Prop where
  | spelled
      (s : Units)
      {l : CaseLabel}
      (hOther : l.isString = false) :
      Coincides parsed place (string s) l
  | halves
      {s t : Units}
      (hParsed : parsed = true)
      (hSingle : ¬ s.IsPaired) :
      Coincides parsed place (string s) (string t)
  | place
      (hNumeral : Decimal.IsNumeral (Decimal.ofNat place)) :
      Coincides parsed place default
        (number (Decimal.ofNat place) hNumeral)

namespace NamedCase

open CaseLabel

variable {parsed : Bool}
variable {i j : Nat}
variable {c d : NamedCase}

/- Strings with the same title are equal, or have single halves. -/
theorem Shows.string_eq
    {s t : Units}
    (hLeft : c.Shows parsed i)
    (hRight : d.Shows parsed j)
    (hString : c.label = .string s)
    (hOther : d.label = .string t)
    (hSame : c.title = d.title) :
    s = t ∨ parsed = true ∧ (¬ s.IsPaired ∨ ¬ t.IsPaired) := by
  have hTitle := hLeft.string s hString
  have hTitle' := hRight.string t hOther
  cases parsed with
  | true =>
      rw [if_pos rfl] at hTitle hTitle'
      by_cases hPaired : s.IsPaired ∧ t.IsPaired
      · left
        apply Tree.writeUnits_inj hPaired.1 hPaired.2
        rw [← hTitle, hSame, hTitle']
      · exact Or.inr ⟨rfl, not_and_or.mp hPaired⟩
  | false =>
      left
      rw [if_neg Bool.false_ne_true] at hTitle hTitle'
      rw [hSame] at hTitle
      have hUnits := hTitle.unique hTitle'
      cases s
      cases t
      simpa using hUnits

theorem Shows.coincides
    (hLeft : c.Shows parsed i)
    (hRight : d.Shows parsed j)
    (hDistinct : c.label ≠ d.label)
    (hSame : c.title = d.title) :
    Coincides parsed i c.label d.label ∨
      Coincides parsed j d.label c.label := by
  cases hString : c.label.isString with
  | true =>
      obtain ⟨s, hLabel⟩ := eq_string hString
      cases hOther : d.label.isString with
      | true =>
          obtain ⟨t, hLabel'⟩ := eq_string hOther
          rw [hLabel, hLabel'] at hDistinct ⊢
          rcases hLeft.string_eq hRight hLabel hLabel' hSame with
            rfl | ⟨hParsed, hSingle | hSingle⟩
          · exact absurd rfl hDistinct
          · exact Or.inl (.halves hParsed hSingle)
          · exact Or.inr (.halves hParsed hSingle)
      | false =>
          rw [hLabel]
          exact Or.inl (.spelled s hOther)
  | false =>
      cases hOther : d.label.isString with
      | true =>
          obtain ⟨t, hLabel⟩ := eq_string hOther
          rw [hLabel]
          exact Or.inr (.spelled t hString)
      | false =>
          have hTitled := hLeft.titled hString
          rw [hSame] at hTitled
          rcases hTitled.cases_same (hRight.titled hOther) with
            hEq | ⟨hNumeral, hPlace, hNumber⟩ |
              ⟨hNumeral, hPlace, hNumber⟩
          · exact absurd hEq hDistinct
          · rw [hPlace, hNumber]
            exact Or.inl (.place hNumeral)
          · rw [hPlace, hNumber]
            exact Or.inr (.place hNumeral)

end NamedCase

------------------------------------------------------------
-- Names
------------------------------------------------------------

/- The cases between the braces of a switch statement. -/
def Lexical.namedCases
    (m : CodeMap)
    (body : SwitchBody) :
    List (Option NamedCase) :=
  body.labels.mapIdx fun place start =>
    namedCase? m place start
      (body.labels[place + 1]?.getD body.close)

/-
  The cases of the interpreter with the expected number of them,
  as an analysis finds it: those whose labels are literals, and
  nothing in the place of any other.
-/
def namedCases
    (a : Analysis)
    (code : String)
    (expected : Nat) :
    List (Option NamedCase) :=
  match a.tree? code with
  | some t =>
    match t.nodes.findSome? (Syntactic.casesOf? expected) with
    | some trees => trees.mapIdx Syntactic.namedCase?
    | none => []
  | none =>
    let m := CodeMap.ofText code
    let bodies := (m.keywordOffsets "switch").filterMap m.switchBody?
    match bodies.find? fun b =>
        b.labels.length == expected && 0 < expected with
    | some body => Lexical.namedCases m body
    | none => []

theorem mapIdx_shows
    {α : Type}
    {xs : List α}
    {named? : Nat → α → Option NamedCase}
    {instruction : Nat → α → Instruction}
    {parsed : Bool}
    {cases : List NamedCase}
    (hEach :
      ∀ i x c,
        named? i x = some c →
          c.Shows parsed i ∧ (instruction i x).name = c.name)
    (hAll : xs.mapIdx named? = cases.map some) :
    (xs.mapIdx instruction).map (·.name) = cases.map NamedCase.name ∧
      ∀ i (hi : i < cases.length), cases[i].Shows parsed i := by
  have hLength : xs.length = cases.length := by
    simpa using congrArg List.length hAll
  have hHere :
      ∀ i (hi : i < cases.length) (hj : i < xs.length),
        named? i xs[i] = some cases[i] := by
    intro i hi hj
    have hAt : (xs.mapIdx named?)[i]? = (cases.map some)[i]? := by
      rw [hAll]
    simpa [hi, hj] using hAt
  refine ⟨?_, fun i hi => (hEach _ _ _ (hHere i hi (by omega))).1⟩
  apply List.ext_getElem
  · simpa using hLength
  · intro i hi hj
    simp only [List.length_map, List.length_mapIdx] at hi hj
    simp only [List.getElem_map, List.getElem_mapIdx]
    exact (hEach _ _ _ (hHere i hj hi)).2

theorem namedCases_shows
    {a : Analysis}
    {code : String}
    {expected : Nat}
    {cases : List NamedCase}
    (hCases : namedCases a code expected = cases.map some) :
    (extract a code expected).map (·.name) =
        cases.map NamedCase.name ∧
      ∀ i (hi : i < cases.length),
        cases[i].Shows (a.tree? code).isSome i := by
  have hNone :
      [] = cases.map some →
        ([] : List Instruction).map (·.name) =
            cases.map NamedCase.name ∧
          ∀ i (hi : i < cases.length),
            cases[i].Shows (a.tree? code).isSome i := by
    intro hEmpty
    obtain rfl := List.map_eq_nil_iff.mp hEmpty.symm
    exact ⟨rfl, fun i hi => absurd hi (Nat.not_lt_zero i)⟩
  unfold namedCases at hCases
  unfold extract
  cases hTree : a.tree? code with
  | some t =>
      simp only [hTree] at hCases hNone
      simp only [Syntactic.instructions]
      generalize
        t.nodes.findSome? (Syntactic.casesOf? expected) = found
        at hCases
      cases found with
      | some trees =>
          exact
            mapIdx_shows (fun _ _ _ => Syntactic.namedCase?_shows)
              hCases
      | none => exact hNone hCases
  | none =>
      simp only [hTree] at hCases hNone
      simp only [Lexical.instructions]
      generalize
        (((CodeMap.ofText code).keywordOffsets "switch").filterMap
            (CodeMap.ofText code).switchBody?).find?
          (fun b =>
            b.labels.length == expected && 0 < expected) =
        found at hCases
      cases found with
      | some body =>
          dsimp only
          rw [Lexical.instructionsFrom_eq_mapIdx]
          simp only [Nat.zero_add]
          exact
            mapIdx_shows (fun _ _ _ => Lexical.namedCase?_shows)
              hCases
      | none => exact hNone hCases

/-
  The body of a switch statement, the places of all labels in the
  text being given.
-/
def CodeMap.bodyAmong?
    (m : CodeMap)
    (labels : List Nat)
    (start : Nat) :
    Option SwitchBody := do
  let paren ← m.nextCode start (Scanner.byte '(')
  let parenClose ← m.close? paren
  let opening ← m.nextCode parenClose (Scanner.byte '{')
  let close ← m.close? opening
  let inside := labels.filter fun offset =>
    opening < offset && offset < close &&
      m.braceDepth opening offset == 1
  pure ⟨inside, close⟩

/-
  A text whose only switch statement begins it, with labels that
  are found in order.
-/
theorem lexical_single
    (code : String)
    (body : SwitchBody)
    (hSwitch : (CodeMap.ofText code).keywordOffsets "switch" = [0])
    (hOrder :
      ((CodeMap.ofText code).keywordOffsets "case" ++
        (CodeMap.ofText code).keywordOffsets "default").Pairwise
          (· ≤ ·))
    (hBody :
      (CodeMap.ofText code).bodyAmong?
          ((CodeMap.ofText code).keywordOffsets "case" ++
            (CodeMap.ofText code).keywordOffsets "default") 0 =
        some body)
    (hSome : 0 < body.labels.length) :
    namedCases .lexical code body.labels.length =
        Lexical.namedCases (CodeMap.ofText code) body ∧
      extract .lexical code body.labels.length =
        Lexical.instructionsFrom (CodeMap.ofText code)
          (CodeMap.ofText code).masked body.close 0 body.labels := by
  have hFound : (CodeMap.ofText code).switchBody? 0 = some body := by
    rw [← hBody, ← CodeMap.labelOffsets_of_pairwise hOrder]
    rfl
  simp [namedCases, extract, Lexical.instructions, Analysis.tree?,
    hSwitch, hFound, hSome]

/-
  The names of the instructions are those of the cases.  Two
  cases have one name only if their labels coincide.
-/
theorem extract_names
    {a : Analysis}
    {code : String}
    {expected : Nat}
    {cases : List NamedCase}
    (hCases : namedCases a code expected = cases.map some)
    (hDistinct : cases.Pairwise fun c d => c.label ≠ d.label) :
    (extract a code expected).map (·.name) =
        cases.map NamedCase.name ∧
      ∀ i j (hi : i < cases.length) (hj : j < cases.length),
        i ≠ j →
          cases[i].name = cases[j].name →
            CaseLabel.Coincides (a.tree? code).isSome i
                cases[i].label cases[j].label ∨
              CaseLabel.Coincides (a.tree? code).isSome j
                cases[j].label cases[i].label := by
  obtain ⟨hNames, hShows⟩ := namedCases_shows hCases
  have hPairs := List.pairwise_iff_getElem.mp hDistinct
  refine ⟨hNames, fun i j hi hj hApart hSame => ?_⟩
  have hTitle : cases[i].title = cases[j].title := by
    have hChars := congrArg String.toList hSame
    simp only [NamedCase.name, String.toList_append] at hChars
    exact String.toList_inj.mp (List.append_cancel_left hChars)
  have hLabel : cases[i].label ≠ cases[j].label := by
    rcases Nat.lt_or_gt_of_ne hApart with hLess | hLess
    · exact hPairs i j hi hj hLess
    · exact (hPairs j i hj hi hLess).symm
  exact (hShows i hi).coincides (hShows j hj) hLabel hTitle

/- A number, a string and the default case. -/
def threeCases : String :=
  "switch(a)\x7bcase 0: case 'b': default:\x7d"

def threeNamed : List NamedCase :=
  [ ⟨.number 0 (by decide +kernel), "0"⟩
  , ⟨.string (.ofString "b"), "b"⟩
  , ⟨.default, "2"⟩ ]

theorem threeCases_named :
    namedCases .syntactic threeCases 3 = threeNamed.map some ∧
      namedCases .lexical threeCases 3 = threeNamed.map some ∧
      threeNamed.Pairwise fun c d => c.label ≠ d.label := by
  have hFound :=
    lexical_single threeCases ⟨[10, 18, 28], 36⟩
      (by decide +kernel) (by decide +kernel) (by decide +kernel)
      (by decide)
  refine ⟨by decide +kernel, hFound.1.trans ?_, by decide +kernel⟩
  decide +kernel

/- Both analyses tell the three cases apart. -/
theorem extract_names_threeCases :
    (namedCases .syntactic threeCases 3 = threeNamed.map some ∧
        namedCases .lexical threeCases 3 = threeNamed.map some ∧
        threeNamed.Pairwise fun c d => c.label ≠ d.label) ∧
      (extract .syntactic threeCases 3).map (·.name) =
        ["op_0", "op_b", "op_2"] ∧
      (extract .lexical threeCases 3).map (·.name) =
        ["op_0", "op_b", "op_2"] := by
  obtain ⟨hSyntactic, hLexical, hDistinct⟩ := threeCases_named
  exact
    ⟨threeCases_named, (extract_names hSyntactic hDistinct).1,
      (extract_names hLexical hDistinct).1⟩

------------------------------------------------------------
-- Names That Are Shared
------------------------------------------------------------

/- A number that is the place of the default case. -/
def numberedDefault : String :=
  "switch(a)\x7bcase 1: default:\x7d"

def numberedCases : List NamedCase :=
  [⟨.number 1 (by decide +kernel), "1"⟩, ⟨.default, "1"⟩]

theorem numberedDefault_named :
    namedCases .syntactic numberedDefault 2 =
        numberedCases.map some ∧
      namedCases .lexical numberedDefault 2 =
        numberedCases.map some := by
  have hFound :=
    lexical_single numberedDefault ⟨[10, 18], 26⟩
      (by decide +kernel) (by decide +kernel) (by decide +kernel)
      (by decide)
  refine ⟨by decide +kernel, hFound.1.trans ?_⟩
  decide +kernel

/- A number in octal digits, and one with the same digits. -/
def octalDigits : String :=
  "switch(a)\x7bcase 010: case 10:\x7d"

theorem octalDigits_names :
    (extract .lexical octalDigits 2).map (·.name) =
      ["op_10", "op_10"] := by
  have hFound :=
    lexical_single octalDigits ⟨[10, 20], 28⟩
      (by decide +kernel) (by decide +kernel) (by decide +kernel)
      (by decide)
  refine (congrArg _ hFound.2).trans ?_
  decide +kernel

/- A string with a comment behind it, and one of their text. -/
def commentedLabel : String :=
  "switch(a)\x7bcase 'a'//\n: case \"'a'//\":\x7d"

theorem commentedLabel_names :
    (extract .lexical commentedLabel 2).map (·.name) =
      ["op_'a'//", "op_'a'//"] := by
  have hFound :=
    lexical_single commentedLabel ⟨[10, 23], 36⟩
      (by decide +kernel) (by decide +kernel) (by decide +kernel)
      (by decide)
  refine (congrArg _ hFound.2).trans ?_
  decide +kernel

/- A number, and the string that spells it. -/
def spelledNumber : String :=
  "switch(a)\x7bcase 1: case '1':\x7d"

/- Half of a pair, and the string of its escape. -/
def singleHalf : String :=
  "switch(a)\x7bcase '\\ud800': case \"\\\\uD800\":\x7d"

/-
  Different labels share a name: a number with the default case
  at its place in both analyses, and a label with a string that
  spells it.  Only trees write single halves like their escapes,
  and only texts take octal digits for decimal ones and comments
  for parts of a label.
-/
theorem different_labels_share_names :
    (namedCases .syntactic numberedDefault 2 =
          numberedCases.map some ∧
        namedCases .lexical numberedDefault 2 =
          numberedCases.map some) ∧
      (numberedCases.Pairwise fun c d => c.label ≠ d.label) ∧
      (extract .syntactic numberedDefault 2).map (·.name) =
        ["op_1", "op_1"] ∧
      (extract .lexical numberedDefault 2).map (·.name) =
        ["op_1", "op_1"] ∧
      (extract .syntactic spelledNumber 2).map (·.name) =
        ["op_1", "op_1"] ∧
      (extract .syntactic singleHalf 2).map (·.name) =
        ["op_\\uD800", "op_\\uD800"] ∧
      (extract .lexical octalDigits 2).map (·.name) =
        ["op_10", "op_10"] ∧
      (extract .lexical commentedLabel 2).map (·.name) =
        ["op_'a'//", "op_'a'//"] :=
  ⟨numberedDefault_named, by decide +kernel,
    (namedCases_shows numberedDefault_named.1).1,
    (namedCases_shows numberedDefault_named.2).1,
    by decide +kernel, by decide +kernel, octalDigits_names,
    commentedLabel_names⟩

end Devirt

import Devirt.Proofs.Json.RoundTrip
import Devirt.Proofs.Restoration.Keeping

/-
  An assistant adds to a restoration and changes nothing.

  Only the strategy for custom scripts asks an assistant, after
  its script is done.  What the assistant reports stands behind
  what was noted before, and what is noted afterwards stands
  behind both.  An answer without a report, or no answer at
  all, leaves the result as if nobody had been asked.

  A report that is written as it was asked for is found in any
  answer without other braces, whatever other fields it has.

  Main declarations:
    * `Report.HoldsReport`, answers in which a report is found
    * `Report.ofAnswer?_isSome_iff`
    * `Report.ofText?_toJson`, `Report.holdsReport_of_toJson`
    * `Restoration.Extends`
    * `assistant_only_adds`
-/

------------------------------------------------------------
-- Answers
------------------------------------------------------------

namespace Devirt

namespace Report

/-
  A text between the first opening and the last closing brace
  of another.
-/
structure Embraced
    (inner whole : List Char) :
    Prop where
  splits :
    ∃ before after,
      whole = before ++ (inner ++ after) ∧
        '{' ∉ before ∧ '}' ∉ after
  opens : inner.head? = some '{'
  closes : inner.getLast? = some '}'

/- Dropping stops at the character that is looked for. -/
theorem head?_dropWhile_bne
    {cs : List Char}
    {x : Char}
    (hFound : cs.dropWhile (· != x) ≠ []) :
    (cs.dropWhile (· != x)).head? = some x := by
  have hStops := List.head_dropWhile_not (· != x) hFound
  rw [List.head?_eq_some_head hFound]
  simpa using hStops

theorem notMem_takeWhile_bne
    (cs : List Char)
    (x : Char) :
    x ∉ cs.takeWhile (· != x) := by
  intro hMember
  have hOther := List.all_eq_true.mp List.all_takeWhile x hMember
  simp at hOther

theorem braced?_eq
    (whole : List Char) :
    braced? whole =
      let opened := whole.dropWhile (· != '{')
      let inner := (opened.reverse.dropWhile (· != '}')).reverse
      if inner.isEmpty then none else some inner :=
  rfl

/- What is dropped and what stays make up the whole. -/
theorem embraced_of_braced?
    {whole inner : List Char}
    (hBraced : braced? whole = some inner) :
    Embraced inner whole := by
  let opened := whole.dropWhile (· != '{')
  let closed := opened.reverse.dropWhile (· != '}')
  let tail := opened.reverse.takeWhile (· != '}')
  have hWhole :
      whole = whole.takeWhile (· != '{') ++ opened :=
    List.takeWhile_append_dropWhile.symm
  have hOpened :
      opened = closed.reverse ++ tail.reverse := by
    rw [← List.reverse_append, List.takeWhile_append_dropWhile,
      List.reverse_reverse]
  have hInner : closed.reverse = inner ∧ closed ≠ [] := by
    rw [braced?_eq] at hBraced
    dsimp only at hBraced
    split at hBraced
    · cases hBraced
    · next hSome =>
        refine ⟨Option.some.inj hBraced, ?_⟩
        intro hNone
        have hEmpty : closed.reverse.isEmpty = true := by
          rw [hNone]
          rfl
        exact hSome hEmpty
  rcases hInner with ⟨rfl, hSome⟩
  have hCloses : closed.head? = some '}' :=
    head?_dropWhile_bne hSome
  have hOpens : opened.head? = some '{' := by
    apply head?_dropWhile_bne
    rintro hNone
    exact hSome (by simp [closed, opened, hNone])
  refine
    ⟨⟨_, tail.reverse, ?_, notMem_takeWhile_bne whole '{', ?_⟩,
      ?_, ?_⟩
  · rw [← hOpened]
    exact hWhole
  · rw [List.mem_reverse]
    exact notMem_takeWhile_bne opened.reverse '}'
  · have hFirst : closed.reverse ≠ [] := by
      simpa using hSome
    rw [hOpened, List.head?_append,
      List.head?_eq_some_head hFirst] at hOpens
    rw [List.head?_eq_some_head hFirst]
    exact hOpens
  · rw [List.getLast?_reverse]
    exact hCloses

theorem Embraced.braced?_eq
    {whole inner : List Char}
    (hEmbraced : Embraced inner whole) :
    braced? whole = some inner := by
  rcases hEmbraced with
    ⟨⟨before, after, rfl, hBefore, hAfter⟩, hOpens, hCloses⟩
  have hOpened :
      (before ++ (inner ++ after)).dropWhile (· != '{') =
        inner ++ after := by
    rw [List.dropWhile_append_of_pos (by
      intro c hMember
      simp only [bne_iff_ne]
      rintro rfl
      exact hBefore hMember)]
    rcases List.head?_eq_some_iff.mp hOpens with ⟨rest, rfl⟩
    rfl
  have hClosed :
      (inner ++ after).reverse.dropWhile (· != '}') =
        inner.reverse := by
    rw [List.reverse_append, List.dropWhile_append_of_pos (by
      intro c hMember
      simp only [bne_iff_ne]
      rintro rfl
      exact hAfter (List.mem_reverse.mp hMember))]
    rw [← List.head?_reverse] at hCloses
    rcases List.head?_eq_some_iff.mp hCloses with ⟨rest, hRest⟩
    rw [hRest]
    rfl
  have hSome : inner ≠ [] := by
    rintro rfl
    cases hOpens
  rw [Report.braced?_eq, hOpened]
  simp only [hClosed, List.reverse_reverse, List.isEmpty_iff,
    hSome, if_false]

theorem braced?_eq_some_iff
    {whole inner : List Char} :
    braced? whole = some inner ↔ Embraced inner whole :=
  ⟨embraced_of_braced?, Embraced.braced?_eq⟩

/-
  An answer writes a report, or there is one between its
  first opening and its last closing brace.
-/
def HoldsReport (answer : String) : Prop :=
  (ofText? (Text.trim answer)).isSome ∨
    ∃ inner, Embraced inner answer.toList ∧
      (ofText? (String.ofList inner)).isSome

/- An answer is read as a whole, and else between braces. -/
theorem ofAnswer?_eq
    (answer : String) :
    ofAnswer? answer =
      (ofText? (Text.trim answer)).or
        ((braced? answer.toList).bind fun inner =>
          ofText? (String.ofList inner)) := by
  unfold ofAnswer?
  split
  · next hDirect =>
      rw [hDirect]
      rfl
  · next hDirect =>
      rw [hDirect]
      rfl

theorem ofAnswer?_isSome_iff
    (answer : String) :
    (ofAnswer? answer).isSome ↔ HoldsReport answer := by
  rw [ofAnswer?_eq, Option.isSome_or, Bool.or_eq_true]
  apply or_congr_right
  rw [Option.isSome_iff_exists]
  simp only [Option.bind_eq_some_iff, braced?_eq_some_iff]
  constructor
  · rintro ⟨report, inner, hInner, hReport⟩
    exact ⟨inner, hInner, Option.isSome_of_eq_some hReport⟩
  · rintro ⟨inner, hInner, hSome⟩
    rcases Option.isSome_iff_exists.mp hSome with
      ⟨report, hReport⟩
    exact ⟨report, inner, hInner, hReport⟩

/- A number that no double holds stands in a field of no use. -/
example :
    ofAnswer? "So: \x7b\"warnings\":[\"x\"],\"score\":1e999\x7d" =
      some ⟨["x"], []⟩ := by
  rfl

end Report

end Devirt

------------------------------------------------------------
-- Written Reports
------------------------------------------------------------

namespace Devirt

open Json

/- The fields of a part, as an answer is asked to give them. -/
def UnresolvedPart.fields
    (p : UnresolvedPart) :
    List (String × Json) :=
  [ ("location", .text p.location), ("reason", .text p.reason)
  , ("suggestion", .text p.suggestion) ]

namespace Report

def warningsJson (r : Report) : Json :=
  .array (r.warnings.map .text)

def partsJson (r : Report) : Json :=
  .array (r.unresolved.map fun p => .object p.fields)

/- A report as it is asked for, with other fields behind it. -/
def toJson
    (r : Report)
    (others : List (String × Json)) :
    Json :=
  .object
    (("warnings", r.warningsJson) ::
      ("unresolvedParts", r.partsJson) :: others)

/- The field of a report that a name stands for, if any. -/
def asked? (name : String) : Option Json.Field :=
  [warningsField, partsField].find? (·.isCalled name)

theorem reads_part
    (p : UnresolvedPart) :
    Reads (readRecord partFields)
      (compact (.object p.fields)).toList (.object p.fields) := by
  have hField
      (name s : String)
      (hAsked :
        partFields.find? (·.isCalled name) =
          some ⟨name, [], readText⟩) :
      Reads (readAsked partFields)
        (compactField (name, .text s)).toList
        (some (name, .text s)) :=
    reads_readAsked _ hAsked (reads_readText s)
  have hFields :
      ∀ f ∈ p.fields,
        Reads (readAsked partFields) (compactField f).toList
          (some f) := by
    simp only [UnresolvedPart.fields, List.forall_mem_cons,
      List.not_mem_nil, false_implies, implies_true, and_true]
    exact ⟨hField _ _ rfl, hField _ _ rfl, hField _ _ rfl⟩
  simpa using reads_readRecord some hFields

theorem partOfJson?_fields
    (p : UnresolvedPart) :
    partOfJson? (.object p.fields) = some p := by
  rcases p with ⟨location, reason, suggestion⟩
  rfl

theorem listOf_map
    {α : Type}
    {read : Json → Option α}
    {write : α → Json}
    {items : List α}
    (hItems : ∀ a ∈ items, read (write a) = some a) :
    listOf read (.array (items.map write)) = some items := by
  simp only [listOf, Json.array?, Option.bind_some]
  induction items with
  | nil => rfl
  | cons a rest ih =>
      have hRest :=
        ih fun b hMember =>
          hItems b (List.mem_cons_of_mem a hMember)
      simp [hItems a List.mem_cons_self, hRest]

theorem ofJson?_written
    (r : Report) :
    ofJson?
        (.object
          [ ("warnings", r.warningsJson)
          , ("unresolved_parts", r.partsJson) ]) =
      some r := by
  have hNamed :
      Format.json.record? ["warnings", "unresolved_parts"]
          (.object
            [ ("warnings", r.warningsJson)
            , ("unresolved_parts", r.partsJson) ]) =
        some
          [ ("warnings", r.warningsJson)
          , ("unresolved_parts", r.partsJson) ] :=
    rfl
  have hWarnings :
      listOf Json.text? r.warningsJson = some r.warnings :=
    listOf_map fun _ _ => rfl
  have hParts :
      listOf partOfJson? r.partsJson = some r.unresolved :=
    listOf_map fun p _ => partOfJson?_fields p
  rw [ofJson?, hNamed]
  simp [Format.field, hWarnings, hParts]

/-
  The report comes back, whatever fields stand behind it that
  are not asked for.
-/
theorem ofText?_toJson
    (r : Report)
    {others : List (String × Json)}
    (hUnasked : ∀ f ∈ others, asked? f.1 = none)
    (hReadable : ∀ f ∈ others, Readable depthLimit f.2) :
    ofText? (r.toJson others).compact = some r := by
  let take := fun f : String × Json =>
    (asked? f.1).map fun field => (field.name, f.2)
  have hWarnings :
      Reads (readAsked [warningsField, partsField])
        (compactField ("warnings", r.warningsJson)).toList
        (some ("warnings", r.warningsJson)) :=
    reads_readAsked warningsField rfl
      (reads_readListOf .text fun s _ => reads_readText s)
  have hParts :
      Reads (readAsked [warningsField, partsField])
        (compactField ("unresolvedParts", r.partsJson)).toList
        (some ("unresolved_parts", r.partsJson)) :=
    reads_readAsked partsField rfl
      (reads_readListOf _ fun p _ => reads_part p)
  have hNone : ∀ f ∈ others, take f = none := by
    intro f hMember
    simp [take, hUnasked f hMember]
  have hFields :
      ∀ f ∈ ("warnings", r.warningsJson) ::
          ("unresolvedParts", r.partsJson) :: others,
        Reads (readAsked [warningsField, partsField])
          (compactField f).toList (take f) := by
    rw [List.forall_mem_cons, List.forall_mem_cons]
    refine ⟨hWarnings, hParts, ?_⟩
    intro f hMember
    rw [hNone f hMember]
    exact
      reads_readUnasked (hUnasked f hMember)
        (hReadable f hMember)
  have hTaken :
      List.filterMap take
          (("warnings", r.warningsJson) ::
            ("unresolvedParts", r.partsJson) :: others) =
        [ ("warnings", r.warningsJson)
        , ("unresolved_parts", r.partsJson) ] := by
    have hOthers : others.filterMap take = [] :=
      List.filterMap_eq_nil_iff.mpr hNone
    change
      ("warnings", r.warningsJson) ::
        ("unresolved_parts", r.partsJson) ::
          others.filterMap take = _
    rw [hOthers]
  have hRead := (reads_readRecord take hFields).parseWith_eq
  rw [ofText?, toJson, hRead, hTaken]
  exact ofJson?_written r

/- Text around a written report does not hide it. -/
theorem holdsReport_of_toJson
    (r : Report)
    {others : List (String × Json)}
    {answer : String}
    {before after : List Char}
    (hAnswer :
      answer.toList =
        before ++ ((r.toJson others).compact.toList ++ after))
    (hBefore : '{' ∉ before)
    (hAfter : '}' ∉ after)
    (hUnasked : ∀ f ∈ others, asked? f.1 = none)
    (hReadable : ∀ f ∈ others, Readable depthLimit f.2) :
    HoldsReport answer := by
  have hText := ofText?_toJson r hUnasked hReadable
  have hEmbraced :
      Embraced (r.toJson others).compact.toList answer.toList := by
    refine
      ⟨⟨before, after, hAnswer, hBefore, hAfter⟩, ?_, ?_⟩
    · rw [toJson, toList_compact_object]
      rfl
    · rw [toJson, toList_compact_object, ← List.cons_append,
        List.getLast?_concat]
  refine Or.inr ⟨_, hEmbraced, ?_⟩
  rw [String.ofList_toList, hText]
  rfl

end Report

end Devirt

------------------------------------------------------------
-- Additions
------------------------------------------------------------

namespace Devirt

variable {σ : Type}

namespace Restoration

/-
  A result with the script of another and with all that the
  other notes, in the same order.
-/
structure Extends (r plain : Restoration) : Prop where
  code_eq : r.code = plain.code
  warnings_sublist : plain.warnings.Sublist r.warnings
  unresolved_sublist : plain.unresolved.Sublist r.unresolved

theorem Extends.refl
    (r : Restoration) :
    r.Extends r :=
  ⟨rfl, List.Sublist.refl _, List.Sublist.refl _⟩

/- A report stands behind what was noted before. -/
theorem extends_addTo
    (report : Report)
    (confidence : Float)
    (r : Restoration) :
    (report.addTo confidence r).Extends r :=
  ⟨rfl, List.sublist_append_left _ _,
    List.sublist_append_left _ _⟩

/- A script that is kept is kept with or without additions. -/
theorem Extends.keepUnlessBlank
    {r plain : Restoration}
    (hExtends : r.Extends plain)
    (code : String) :
    (keepUnlessBlank code r).Extends
      (keepUnlessBlank code plain) := by
  rcases hExtends with ⟨hCode, hWarnings, hUnresolved⟩
  unfold Devirt.keepUnlessBlank
  rw [hCode]
  split
  · exact
      ⟨rfl, hWarnings.append (List.Sublist.refl _), hUnresolved⟩
  · exact ⟨hCode, hWarnings, hUnresolved⟩

end Restoration

/- The same tools with another assistant, or with none. -/
def Tools.asking
    (tools : Tools σ)
    (assistant : Option (Assistant σ)) :
    Tools σ :=
  { tools with assistant }

theorem consult_extends
    (tools : Tools σ)
    (code : String)
    (features : Option Features)
    (r : Restoration)
    (memory : σ) :
    ((consult tools code features r).run memory).1.Extends r := by
  unfold consult
  cases tools.assistant with
  | none => exact .refl r
  | some ask =>
      simp only [answer_bind]
      split
      · exact Restoration.extends_addTo _ _ r
      · exact .refl r

/- Nothing comes of an answer without a report. -/
theorem consult_of_noReport
    {tools : Tools σ}
    {ask : Assistant σ}
    {code : String}
    {features : Option Features}
    (r : Restoration)
    {memory : σ}
    (hNoReport :
      ∀ answer,
        ((ask
            (Report.prompt code features
              tools.settings.maxPromptChars)).run memory).1 =
            some answer →
          ¬ Report.HoldsReport answer) :
    ((consult (tools.asking (some ask)) code features r).run
        memory).1 = r := by
  simp only [consult, Tools.asking, answer_bind]
  split
  · next report hReport =>
      rcases Option.bind_eq_some_iff.mp hReport with
        ⟨answer, hAnswer, hFound⟩
      have hHolds :=
        (Report.ofAnswer?_isSome_iff answer).mp
          (Option.isSome_of_eq_some hFound)
      exact absurd hHolds (hNoReport answer hAnswer)
  · rfl

end Devirt

------------------------------------------------------------
-- Custom Scripts
------------------------------------------------------------

namespace Devirt

variable {σ : Type}

/- A cleaned script, before anybody is asked about it. -/
def cleanedResult
    (clean : String)
    (steps : Nat)
    (features : Option Features) :
    Restoration :=
  (Restoration.ofCode clean (Custom.confidence steps)).addUnresolved
    (bytecodePart features)

section Runs

variable {tools : Tools σ}
variable {code : String}
variable (assistant : Option (Assistant σ))
variable (settings : DetectorSettings)
variable (memory : σ)

theorem restoreAs_custom_of_clean
    {clean : String}
    {steps : Nat}
    (hClean :
      Cleanup.run tools.options.aggressive code =
        .ok (clean, steps)) :
    let features := detect .syntactic code settings
    ((restoreAs (tools.asking assistant) settings .custom
        code).run memory).1 =
      keepUnlessBlank code
        ((consult (tools.asking assistant) code features
          (cleanedResult clean steps features)).run memory).1 := by
  intro features
  apply runStrategy_of_ok
  simp only [strategy, restoreCustom, Tools.asking, hClean,
    answer_bind]
  rfl

theorem restoreAs_custom_of_fault
    {fault : Fault}
    (hFault :
      Cleanup.run tools.options.aggressive code = .error fault) :
    ((restoreAs (tools.asking assistant) settings .custom
        code).run memory).1 =
      keepUnlessBlank code
        (.fallback code fallbackConfidence
          (Family.custom.name ++
            " strategy aborted unexpectedly")) := by
  apply runStrategy_of_error
  simp only [strategy, restoreCustom, Tools.asking, hFault]
  rfl

end Runs

/- A run with an assistant extends every run without one. -/
theorem restoreAs_custom_extends
    (tools : Tools σ)
    (assistant : Option (Assistant σ))
    (settings : DetectorSettings)
    (code : String)
    (memory other : σ) :
    ((restoreAs (tools.asking assistant) settings .custom
        code).run memory).1.Extends
      ((restoreAs (tools.asking none) settings .custom
        code).run other).1 := by
  cases hRun : Cleanup.run tools.options.aggressive code with
  | error fault =>
      rw [restoreAs_custom_of_fault assistant settings memory hRun,
        restoreAs_custom_of_fault none settings other hRun]
      exact .refl _
  | ok result =>
      rw [restoreAs_custom_of_clean assistant settings memory hRun,
        restoreAs_custom_of_clean none settings other hRun]
      exact (consult_extends _ code _ _ memory).keepUnlessBlank code

/-
  Whoever is asked about a custom script, and whatever is
  answered, the script comes out the same.  What is noted
  without an assistant is noted with one, in the same order.
  An answer that holds no report, or no answer, leaves the
  whole result as it is without an assistant.
-/
theorem assistant_only_adds
    (tools : Tools σ)
    (settings : DetectorSettings)
    (code : String) :
    let run := fun assistant memory =>
      ((restoreAs (tools.asking assistant) settings .custom
        code).run memory).1
    let prompt :=
      Report.prompt code (detect .syntactic code settings)
        tools.settings.maxPromptChars
    (∀ first second memory other,
        (run first memory).code = (run second other).code) ∧
      (∀ assistant memory other,
        (run none other).warnings.Sublist
            (run assistant memory).warnings ∧
          (run none other).unresolved.Sublist
            (run assistant memory).unresolved) ∧
      ∀ ask memory other,
        (∀ answer, ((ask prompt).run memory).1 = some answer →
          ¬ Report.HoldsReport answer) →
        run (some ask) memory = run none other := by
  intro run prompt
  have hExtends (assistant : Option (Assistant σ))
      (memory other : σ) :
      (run assistant memory).Extends (run none other) :=
    restoreAs_custom_extends tools assistant settings code memory
      other
  refine ⟨?_, ?_, ?_⟩
  · intro first second memory other
    rw [(hExtends first memory memory).code_eq,
      (hExtends second other memory).code_eq]
  · intro assistant memory other
    exact
      ⟨(hExtends assistant memory other).warnings_sublist,
        (hExtends assistant memory other).unresolved_sublist⟩
  · intro ask memory other hNoReport
    simp only [run]
    cases hRun : Cleanup.run tools.options.aggressive code with
    | error fault =>
        rw [restoreAs_custom_of_fault _ settings memory hRun,
          restoreAs_custom_of_fault _ settings other hRun]
    | ok result =>
        rw [restoreAs_custom_of_clean _ settings memory hRun,
          restoreAs_custom_of_clean _ settings other hRun,
          consult_of_noReport _ hNoReport]
        rfl

end Devirt

import Devirt.Proofs.Restoration.Keeping
import Devirt.Proofs.Source.Keywords
import Mathlib.Data.List.TakeWhile

/-
  Encoded scripts are peeled layer by layer.

  A sandbox is any function from scripts to replies here.  It
  fixes a chain of scripts before anything is restored.  The
  first is the program of the encoded script, and each text
  that begins with `return` makes the next one.  A restoration
  walks along this chain until the chain ends or its budget
  is spent, and answers with the last text it met.

  Main declarations:
    * `Returns` and `isLayer_iff`
    * `layerOf?`, `question?`, `answered?`, the chain
    * `noting`, a sandbox that keeps its questions
    * `Halts`, the ways to stop at a text
    * `peel_halts`, `LeftAlone`, `Peels`, `decode_peels`
    * `restore_peelsLayers`
-/

------------------------------------------------------------
-- Texts That Return
------------------------------------------------------------

namespace Devirt

namespace Layers

/- A text that begins with a word, apart from blanks. -/
def Returns (text : String) : Prop :=
  ∃ blanks rest : List Char,
    text.toList = blanks ++ "return".toList ++ rest ∧
      ∀ c ∈ blanks, Text.isBlank c = true

theorem isLayer_iff
    (text : String) :
    isLayer text = true ↔ Returns text := by
  have hLetter : Text.isBlank 'r' = false := by decide
  rw [isLayer, Text.startsWith_iff]
  constructor
  · rintro ⟨rest, hRest⟩
    refine ⟨text.toList.takeWhile Text.isBlank, rest, ?_, ?_⟩
    · rw [List.append_assoc, hRest,
        List.takeWhile_append_dropWhile]
    · intro c hc
      exact List.mem_takeWhile_imp hc
  · rintro ⟨blanks, rest, hText, hBlanks⟩
    rw [hText, List.append_assoc,
      List.dropWhile_append_of_pos hBlanks]
    refine ⟨rest, ?_⟩
    change _ = List.dropWhile _ ('r' :: _)
    rw [List.dropWhile_cons_of_neg (by simp [hLetter])]
    rfl

instance (text : String) : Decidable (Returns text) :=
  decidable_of_iff _ (isLayer_iff text)

end Layers

end Devirt

------------------------------------------------------------
-- Replies
------------------------------------------------------------

namespace Devirt

namespace Layers

/- The text that a reply gives, if it gives one. -/
def textOf? (reply : Sandbox.Reply) : Option String :=
  if reply.ok = true then reply.text? else none

/- Why a reply gives no text. -/
def whyNoText (reply : Sandbox.Reply) : String :=
  if reply.ok = true then
    "evaluation did not produce a string"
  else
    reply.error.getD "sandbox evaluation failed"

/- How far a script is trusted whose reply gives no text. -/
def trustWithoutText (reply : Sandbox.Reply) : Float :=
  if reply.ok = true then 0.2 else 0.1

theorem classify_of_text
    {reply : Sandbox.Reply}
    {text : String}
    (hText : textOf? reply = some text) :
    classify reply = .ok text := by
  unfold textOf? at hText
  unfold classify
  by_cases hOk : reply.ok = true
  · rw [if_pos hOk] at hText
    simp [hOk, hText]
  · rw [if_neg hOk] at hText
    cases hText

theorem classify_of_noText
    {reply : Sandbox.Reply}
    (hNone : textOf? reply = none) :
    ∃ failure : Failure,
      classify reply = .error failure ∧
        failure.reason = whyNoText reply ∧
        failure.timedOut = reply.timedOut ∧
        clampConfidence failure.confidence =
          trustWithoutText reply := by
  have hNotText : clampConfidence notTextConfidence = 0.2 := by
    rfl
  have hFailed : clampConfidence failedConfidence = 0.1 := by
    rfl
  unfold textOf? at hNone
  unfold classify whyNoText trustWithoutText
  by_cases hOk : reply.ok = true
  · rw [if_pos hOk] at hNone
    simp [hOk, hNone, hNotText]
  · simp [hOk, hFailed]

end Layers

end Devirt

------------------------------------------------------------
-- The Chain of Scripts
------------------------------------------------------------

namespace Devirt

namespace Layers

/- What a sandbox was asked, with what it let scripts do. -/
abbrev Notes := List (String × Realm.DynamicCode)

variable (answer : String → Sandbox.Reply)
variable (program : String)

/-
  The script that a text makes, if it returns something: a
  call of a function with the text as its body.
-/
def layerOf? (text : String) : Option String :=
  if Returns text then
    some ("(function () \x7b " ++ text ++ " \x7d)()")
  else
    none

/- Peeling wraps texts in just this way. -/
theorem layerOf?_eq_some_iff
    {text script : String} :
    layerOf? text = some script ↔
      isLayer text = true ∧ wrap text = script := by
  rw [isLayer_iff, layerOf?]
  by_cases hReturns : Returns text
  · rw [if_pos hReturns, Option.some.injEq]
    exact (and_iff_right hReturns).symm
  · rw [if_neg hReturns]
    simp [hReturns]

theorem layerOf?_eq_none_iff
    {text : String} :
    layerOf? text = none ↔ ¬ Returns text := by
  simp [layerOf?]

/- The scripts of a chain, and their ends. -/
def question? : Nat → Option String
  | 0 => some program
  | k + 1 =>
      (question? k).bind fun script =>
        (textOf? (answer script)).bind layerOf?

/- The texts along the chain. -/
def answered? (k : Nat) : Option String :=
  (question? answer program k).bind fun script =>
    textOf? (answer script)

theorem question?_succ
    (k : Nat) :
    question? answer program (k + 1) =
      (answered? answer program k).bind layerOf? := by
  rw [question?, answered?, Option.bind_assoc]

/- A chain that has ended does not go on. -/
theorem question?_none_of_le
    {k m : Nat}
    (hEnd : question? answer program k = none)
    (hLe : k ≤ m) :
    question? answer program m = none := by
  induction hLe with
  | refl => exact hEnd
  | step _ ih => rw [question?, ih, Option.bind_none]

theorem answered?_none_of_le
    {k m : Nat}
    (hEnd : question? answer program k = none)
    (hLe : k ≤ m) :
    answered? answer program m = none := by
  rw [answered?, question?_none_of_le answer program hEnd hLe,
    Option.bind_none]

/- The scripts of so many places of the chain. -/
def questions (places : List Nat) : Notes :=
  (places.filterMap (question? answer program)).map
    fun script => (script, .capture)

theorem questions_of_end
    {k : Nat}
    (n : Nat)
    (hEnd : question? answer program k = none) :
    questions answer program (List.range' k n) = [] := by
  rw [questions, List.map_eq_nil_iff,
    List.filterMap_eq_nil_iff]
  intro m hm
  exact question?_none_of_le answer program hEnd
    (List.mem_range'_1.mp hm).1

theorem questions_range'_succ
    {k : Nat}
    {script : String}
    (n : Nat)
    (hScript : question? answer program k = some script) :
    questions answer program (List.range' k (n + 1)) =
      (script, .capture) ::
        questions answer program (List.range' (k + 1) n) := by
  rw [questions, List.range'_succ,
    List.filterMap_cons_some hScript]
  rfl

/-
  The ways to stop at the text of a place, with so many
  places in the budget: the text returns nothing, or the
  budget is spent, or the next script gives no text.  Only
  the last is warned of.
-/
def Halts
    (passes k : Nat)
    (text : String)
    (warnings : List String) :
    Prop :=
  (¬ Returns text ∧ warnings = []) ∨
    (k + 1 = passes ∧ warnings = []) ∨
    (k + 1 < passes ∧ ∃ script, layerOf? text = some script ∧
      textOf? (answer script) = none ∧
      warnings =
        ["layer " ++ toString (k + 2) ++ " left encoded: " ++
          whyNoText (answer script)])

/- Within the budget nothing is answered behind the end. -/
theorem Halts.last
    {answer : String → Sandbox.Reply}
    {program : String}
    {passes k m : Nat}
    {text : String}
    {warnings : List String}
    (hHalts : Halts answer passes k text warnings)
    (hText : answered? answer program k = some text)
    (hBehind : k < m)
    (hBudget : m < passes) :
    answered? answer program m = none := by
  have hNext :
      question? answer program (k + 1) = layerOf? text := by
    rw [question?_succ, hText, Option.bind_some]
  rcases hHalts with
    ⟨hPlain, -⟩ | ⟨hSpent, -⟩ | ⟨-, script, hLayer, hNone, -⟩
  · rw [layerOf?_eq_none_iff.mpr hPlain] at hNext
    exact answered?_none_of_le answer program hNext hBehind
  · omega
  · rw [hLayer] at hNext
    have hEmpty : answered? answer program (k + 1) = none := by
      rw [answered?, hNext, Option.bind_some, hNone]
    rcases Nat.eq_or_lt_of_le hBehind with hHere | hLater
    · rw [← hHere]
      exact hEmpty
    · have hEnd :
          question? answer program (k + 2) = none := by
        rw [question?_succ, hEmpty, Option.bind_none]
      exact answered?_none_of_le answer program hEnd hLater

end Layers

end Devirt

------------------------------------------------------------
-- Peeling
------------------------------------------------------------

namespace Devirt

namespace Layers

variable (answer : String → Sandbox.Reply)
variable (assistant : Option (Assistant Notes))
variable (settings : StrategySettings)
variable (options : Options)

/- A sandbox that answers by a function and takes notes. -/
def noting : Tools Notes where
  evaluate script mode := fun notes =>
    (answer script, notes ++ [(script, mode)])
  assistant := assistant
  settings := settings
  options := options

theorem noting_asks
    (script : String)
    (mode : Realm.DynamicCode)
    (notes : Notes) :
    ((noting answer assistant settings options).evaluate
        script mode).run notes =
      pure (answer script, notes ++ [(script, mode)]) :=
  rfl

theorem noting_options :
    (noting answer assistant settings options).options =
      options :=
  rfl

/- A text that returns nothing is left as it is. -/
theorem peel_of_plain
    {text : String}
    (passes layer : Nat)
    (notes : Notes)
    (hPlain : ¬ Returns text) :
    (peel (noting answer assistant settings options)
        (passes + 1) layer text).run notes =
      ((text, []), notes) := by
  rw [peel, if_neg (by rwa [isLayer_iff])]
  rfl

/- A layer that gives no text is left, with a warning. -/
theorem peel_of_noText
    {text script : String}
    (passes layer : Nat)
    (notes : Notes)
    (hLayer : layerOf? text = some script)
    (hNone : textOf? (answer script) = none) :
    (peel (noting answer assistant settings options)
        (passes + 1) layer text).run notes =
      ((text,
          ["layer " ++ toString layer ++ " left encoded: " ++
            whyNoText (answer script)]),
        notes ++ [(script, .capture)]) := by
  obtain ⟨hReturns, hWrap⟩ := layerOf?_eq_some_iff.mp hLayer
  obtain ⟨failure, hFailure, hReason, -, -⟩ :=
    classify_of_noText hNone
  rw [peel, if_pos hReturns, StateT.run_bind, hWrap,
    noting_asks, pure_bind, hFailure, ← hReason]
  rfl

/- A layer that gives a text is followed. -/
theorem peel_of_text
    {text script next : String}
    (passes layer : Nat)
    (notes : Notes)
    (hLayer : layerOf? text = some script)
    (hNext : textOf? (answer script) = some next) :
    (peel (noting answer assistant settings options)
        (passes + 1) layer text).run notes =
      (peel (noting answer assistant settings options)
        passes (layer + 1) next).run
        (notes ++ [(script, .capture)]) := by
  obtain ⟨hReturns, hWrap⟩ := layerOf?_eq_some_iff.mp hLayer
  rw [peel, if_pos hReturns, StateT.run_bind, hWrap,
    noting_asks, pure_bind, classify_of_text hNext]

/-
  From any text of the chain, peeling asks what the chain has
  within the budget and stops at one of its texts.
-/
theorem peel_halts
    (program : String)
    (passes k : Nat)
    (text : String)
    (notes : Notes)
    (hText : answered? answer program k = some text) :
    ∃ n last warnings,
      (peel (noting answer assistant settings options)
          passes (k + 2) text).run notes =
        ((last, warnings),
          notes ++ questions answer program
            (List.range' (k + 1) passes)) ∧
        n < k + 1 + passes ∧
        answered? answer program n = some last ∧
        Halts answer (k + 1 + passes) n last warnings := by
  induction passes generalizing k text notes with
  | zero =>
      have hAsked :
          questions answer program (List.range' (k + 1) 0) = [] :=
        rfl
      rw [hAsked, List.append_nil]
      exact ⟨k, text, [], rfl, Nat.lt_succ_self k, hText,
        Or.inr (Or.inl ⟨rfl, rfl⟩)⟩
  | succ passes ih =>
      have hNext :
          question? answer program (k + 1) = layerOf? text := by
        rw [question?_succ, hText, Option.bind_some]
      cases hLayer : layerOf? text with
      | none =>
          have hPlain := layerOf?_eq_none_iff.mp hLayer
          rw [hLayer] at hNext
          rw [questions_of_end answer program _ hNext,
            List.append_nil,
            peel_of_plain answer assistant settings options
              passes (k + 2) notes hPlain]
          exact ⟨k, text, [], rfl, by omega, hText,
            Or.inl ⟨hPlain, rfl⟩⟩
      | some script =>
          rw [hLayer] at hNext
          rw [questions_range'_succ answer program passes hNext]
          have hThere :
              answered? answer program (k + 1) =
                textOf? (answer script) := by
            rw [answered?, hNext, Option.bind_some]
          cases hReply : textOf? (answer script) with
          | none =>
              have hEnd :
                  question? answer program (k + 2) = none := by
                rw [question?_succ, hThere, hReply,
                  Option.bind_none]
              rw [questions_of_end answer program passes hEnd,
                peel_of_noText answer assistant settings options
                  passes (k + 2) notes hLayer hReply]
              exact ⟨k, text, _, rfl, by omega, hText,
                Or.inr (Or.inr
                  ⟨by omega, script, hLayer, hReply, rfl⟩)⟩
          | some next =>
              rw [hReply] at hThere
              obtain ⟨n, last, warnings, hRun, hHalts⟩ :=
                ih (k + 1) next
                  (notes ++ [(script, .capture)]) hThere
              rw [peel_of_text answer assistant settings options
                  passes (k + 2) notes hLayer hReply, hRun,
                List.append_assoc, List.singleton_append]
              have hBudget :
                  k + 1 + 1 + passes = k + 1 + (passes + 1) := by
                omega
              rw [hBudget] at hHalts
              exact ⟨n, last, warnings, rfl, hHalts⟩

end Layers

end Devirt

------------------------------------------------------------
-- Restorations of Encoded Scripts
------------------------------------------------------------

namespace Devirt

namespace Layers

/-
  The script as it was, with the reason that a reply gives,
  and a part that stays unresolved if time ran out.
-/
structure LeftAlone
    (reply : Sandbox.Reply)
    (family : Family)
    (code : String)
    (r : Restoration) :
    Prop where
  code_eq : r.code = code
  confidence_eq : r.confidence = trustWithoutText reply
  warnings_eq : r.warnings = [whyNoText reply]
  unresolved_eq :
    r.unresolved =
      if reply.timedOut = true then
        [⟨family.name, "payload evaluation timed out",
          "increase timeout_ms"⟩]
      else
        []

/-
  A restoration that walked along the chain of a program,
  with the notes of what was asked.
-/
structure Peels
    (answer : String → Sandbox.Reply)
    (passes : Nat)
    (family : Family)
    (code program : String)
    (r : Restoration)
    (notes : Notes) :
    Prop where
  /- what the chain has within the budget, in order -/
  asked : notes = questions answer program (List.range passes)
  asked_le : notes.length ≤ passes
  /- the script as it was, if the program gives no text -/
  kept :
    textOf? (answer program) = none →
      LeftAlone (answer program) family code r
  /- the last text of the chain otherwise -/
  decoded :
    (textOf? (answer program)).isSome = true →
      ∃ n < passes,
        answered? answer program n = some r.code ∧
          (∀ m, n < m → m < passes →
            answered? answer program m = none) ∧
          Halts answer passes n r.code r.warnings ∧
          r.confidence = 0.9 ∧
          r.unresolved = []

theorem length_questions_le
    (answer : String → Sandbox.Reply)
    (program : String)
    (places : List Nat) :
    (questions answer program places).length ≤
      places.length := by
  rw [questions, List.length_map]
  exact List.length_filterMap_le _ _

variable (answer : String → Sandbox.Reply)
variable (assistant : Option (Assistant Notes))
variable (settings : StrategySettings)
variable (options : Options)

/- A program that gives no text leaves the script alone. -/
theorem decode_of_noText
    {program : String}
    (family : Family)
    (code : String)
    (notes : Notes)
    (hNone : textOf? (answer program) = none) :
    ∃ r : Restoration,
      (decode (noting answer assistant settings options)
          family code program).run notes =
        (r, notes ++ [(program, .capture)]) ∧
        LeftAlone (answer program) family code r := by
  obtain ⟨failure, hFailure, hReason, hTimedOut, hTrust⟩ :=
    classify_of_noText hNone
  refine ⟨failed family code failure, ?_, ?_⟩
  · rw [decode, StateT.run_bind, noting_asks, pure_bind,
      hFailure]
    rfl
  · have hWarning :
        [failure.reason] = [whyNoText (answer program)] := by
      rw [hReason]
    rw [failed, hTimedOut]
    by_cases hLate : (answer program).timedOut = true
    · rw [if_pos hLate]
      exact ⟨rfl, hTrust, hWarning, (if_pos hLate).symm⟩
    · rw [if_neg hLate]
      exact ⟨rfl, hTrust, hWarning, (if_neg hLate).symm⟩

/- A program that gives a text is peeled. -/
theorem decode_of_text
    {program first last : String}
    {warnings : List String}
    {after : Notes}
    (family : Family)
    (code : String)
    (notes : Notes)
    (hFirst : textOf? (answer program) = some first)
    (hPeeled :
      (peel (noting answer assistant settings options)
          (max options.maxIterations 1 - 1) 2 first).run
          (notes ++ [(program, .capture)]) =
        ((last, warnings), after)) :
    (decode (noting answer assistant settings options)
        family code program).run notes =
      (⟨last, 0.9, warnings, []⟩, after) := by
  have hDecoded : clampConfidence decodedConfidence = 0.9 := by
    rfl
  rw [decode, StateT.run_bind, noting_asks, pure_bind,
    classify_of_text hFirst]
  dsimp only
  rw [StateT.run_bind, noting_options, hPeeled, ← hDecoded]
  rfl

theorem decode_peels
    (family : Family)
    (code program : String) :
    let result :=
      (decode (noting answer assistant settings options)
        family code program).run []
    Peels answer (max options.maxIterations 1) family code
      program result.1 result.2 := by
  obtain ⟨passes, hPasses⟩ :
      ∃ passes, max options.maxIterations 1 = passes + 1 :=
    ⟨max options.maxIterations 1 - 1, by omega⟩
  have hStart : question? answer program 0 = some program := rfl
  have hHere :
      answered? answer program 0 = textOf? (answer program) :=
    rfl
  have hAsked :
      questions answer program (List.range (passes + 1)) =
        (program, .capture) ::
          questions answer program (List.range' 1 passes) := by
    rw [List.range_eq_range',
      questions_range'_succ answer program passes hStart]
  have hAskedLe :=
    length_questions_le answer program (List.range (passes + 1))
  rw [List.length_range] at hAskedLe
  rw [hPasses]
  cases hReply : textOf? (answer program) with
  | none =>
      obtain ⟨r, hRun, hKept⟩ :=
        decode_of_noText answer assistant settings options
          family code [] hReply
      have hEnd : question? answer program 1 = none := by
        rw [question?_succ, hHere, hReply, Option.bind_none]
      rw [questions_of_end answer program passes hEnd] at hAsked
      rw [hAsked] at hAskedLe
      rw [hRun]
      exact ⟨hAsked.symm, hAskedLe, fun _ => hKept,
        by simp [hReply]⟩
  | some first =>
      obtain ⟨n, last, warnings, hRun, hBudget, hText, hHalts⟩ :=
        peel_halts answer assistant settings options program
          passes 0 first [(program, .capture)]
          (hHere.trans hReply)
      have hResult :=
        decode_of_text answer assistant settings options
          family code [] hReply
          (by rw [hPasses]; exact hRun)
      rw [Nat.zero_add, Nat.add_comm] at hBudget hHalts
      rw [hResult]
      rw [hAsked] at hAskedLe
      refine ⟨hAsked.symm, hAskedLe, ?_, fun _ => ?_⟩
      · simp [hReply]
      · exact ⟨n, hBudget, hText,
          fun m hBehind hWithin =>
            hHalts.last hText hBehind hWithin,
          hHalts, rfl, rfl⟩

/-
  Within the size limit, whatever the sandbox does: the
  sandbox is asked what the chain of the program has within
  the budget.  A script of six characters is its own program,
  without the blanks around it.  The program of a script
  encoded by a digit table is its entry call.
-/
theorem restore_peelsLayers
    (code : String)
    (hSize : code.utf8ByteSize ≤ settings.encodedSizeLimit) :
    let tools := noting answer assistant settings options
    let passes := max options.maxIterations 1
    (∃ r notes,
      (restoreSixCharacters tools code).run [] = (r, notes) ∧
        Peels answer passes .sixCharacters code
          (Text.trim code) r notes) ∧
      ∀ program, entryCall? code = .ok (some program) →
        ∃ r notes,
          (restoreDigitTable tools code).run [] =
              (.ok r, notes) ∧
            Peels answer passes .digitTable code
              program r notes := by
  intro tools passes
  have hAccepted (family : Family) :
      refusal? tools family code = none := by
    rw [refusal?]
    exact if_neg (Nat.not_lt.mpr hSize)
  constructor
  · refine ⟨_, _, ?_,
      decode_peels answer assistant settings options
        .sixCharacters code (Text.trim code)⟩
    rw [restoreSixCharacters, hAccepted]
    rfl
  · intro program hProgram
    refine ⟨_, _, ?_,
      decode_peels answer assistant settings options
        .digitTable code program⟩
    rw [restoreDigitTable, hAccepted, hProgram]
    rfl

/- A sandbox that knows one program, and one layer in it. -/
def knowsOneLayer (script : String) : Sandbox.Reply :=
  if script = "$.$(0)()" then
    .succeeded (some (.text "return 1"))
  else if script = "(function () \x7b return 1 \x7d)()" then
    .succeeded (some (.text "a()"))
  else
    .late "time limit"

/-
  An entry call with one layer behind it, which is peeled off.
  Read as a script of six characters, it gives no text.
-/
theorem oneLayer_peeled :
    let code := "$.$($.$(0)())()"
    let tools := noting knowsOneLayer none {} {}
    code.utf8ByteSize ≤
        (StrategySettings.encodedSizeLimit {}) ∧
      entryCall? code = .ok (some "$.$(0)()") ∧
      (∃ r notes,
        (restoreSixCharacters tools code).run [] = (r, notes) ∧
          Peels knowsOneLayer 5 .sixCharacters code code
            r notes) ∧
      ∃ r notes,
        (restoreDigitTable tools code).run [] =
            (.ok r, notes) ∧
          Peels knowsOneLayer 5 .digitTable code "$.$(0)()"
            r notes ∧
          r.code = "a()" := by
  intro code tools
  have hSize :
      code.utf8ByteSize ≤
        (StrategySettings.encodedSizeLimit {}) := by
    decide +kernel
  have hEntry :
      entryCall? code = .ok (some "$.$(0)()") := by
    decide +kernel
  have hTrim : Text.trim code = code := by
    decide +kernel
  have hPeeled :=
    restore_peelsLayers knowsOneLayer none {} {} code hSize
  rw [hTrim] at hPeeled
  have hCode :
      ((restoreDigitTable tools code).run []).1.toOption.map
          (·.code) =
        some "a()" := by
    decide +kernel
  obtain ⟨r, notes, hRun, hPeels⟩ := hPeeled.2 _ hEntry
  rw [hRun] at hCode
  exact ⟨hSize, hEntry, hPeeled.1, r, notes, hRun, hPeels,
    Option.some.inj hCode⟩

end Layers

end Devirt

import Devirt.Proofs.Detection.Agreement
import Devirt.Proofs.Restoration.Cleanup

/-
  The two ways to have a script restored give the same.

  Restoring a script as one of its own family, and going the
  whole way from its detection on, end in the same strategy.
  The whole way adds what the replay of the instructions warns
  of, in front of all other warnings, and nothing else: a
  detected machine always has instructions, so no part is ever
  added for missing ones.  A strategy never looks at whether
  instructions are asked for.  The clock may cut the replay off
  anywhere.

  Main declarations:
    * `Steady`, `Tools.Steady`
    * `runStrategy_steady`, `runStrategy_extracting`
    * `Deobfuscation.Completes`, `deobfuscate_completes`
    * `entrances_agree`
-/

------------------------------------------------------------
-- Steady Steps
------------------------------------------------------------

namespace Devirt

variable {σ α β : Type}

/- A step whose answer does not hang on what is remembered. -/
def Steady (step : StateM σ α) : Prop :=
  ∀ memory other, (step.run memory).1 = (step.run other).1

theorem Steady.pure
    (a : α) :
    Steady (pure a : StateM σ α) :=
  fun _ _ => rfl

theorem Steady.bind
    {first : StateM σ α}
    {next : α → StateM σ β}
    (hFirst : Steady first)
    (hNext : ∀ a, Steady (next a)) :
    Steady (first >>= next) := by
  intro memory other
  rw [answer_bind, answer_bind, hFirst memory other]
  exact hNext _ _ _

/- Tools that answer equal requests equally. -/
structure Tools.Steady (tools : Tools σ) : Prop where
  evaluate :
    ∀ code dynamicCode,
      Devirt.Steady (tools.evaluate code dynamicCode)
  assistant :
    ∀ ask ∈ tools.assistant, ∀ prompt,
      Devirt.Steady (ask prompt)

end Devirt

------------------------------------------------------------
-- Steady Strategies
------------------------------------------------------------

namespace Devirt

variable {σ : Type}
variable {tools : Tools σ}

theorem consult_steady
    (hTools : tools.Steady)
    (code : String)
    (features : Option Features)
    (r : Restoration) :
    Steady (consult tools code features r) := by
  unfold consult
  cases hAssistant : tools.assistant with
  | none => exact .pure r
  | some ask =>
      apply Steady.bind (hTools.assistant ask hAssistant _)
      intro answer
      split
      · exact .pure _
      · exact .pure r

theorem restoreCustom_steady
    (hTools : tools.Steady)
    (code : String)
    (features : Option Features) :
    Steady (restoreCustom tools code features) := by
  unfold restoreCustom
  split
  · exact .pure _
  · exact (consult_steady hTools code features _).bind
      fun _ => .pure _

theorem restoreStringTable_steady
    (hTools : tools.Steady)
    (code : String) :
    Steady (restoreStringTable tools code) := by
  unfold restoreStringTable
  apply Steady.bind
  · unfold TableStrategy.decodeTable
    split
    · exact .pure _
    · exact .pure _
    · split
      · exact .pure _
      · apply Steady.bind (hTools.evaluate _ _)
        intro reply
        split <;> exact .pure _
  · intro progress
    split <;> exact .pure _

namespace Layers

/- Each layer asks for one evaluation. -/
theorem peel_steady
    (hTools : tools.Steady)
    (passes layer : Nat)
    (text : String) :
    Steady (peel tools passes layer text) := by
  induction passes generalizing layer text with
  | zero => exact .pure _
  | succ passes ih =>
      unfold peel
      split
      · apply Steady.bind (hTools.evaluate _ _)
        intro reply
        split
        · exact ih _ _
        · exact .pure _
      · exact .pure _

theorem decode_steady
    (hTools : tools.Steady)
    (family : Family)
    (code program : String) :
    Steady (decode tools family code program) := by
  unfold decode
  apply Steady.bind (hTools.evaluate _ _)
  intro reply
  split
  · exact .pure _
  · exact (peel_steady hTools _ _ _).bind fun _ => .pure _

theorem restoreSixCharacters_steady
    (hTools : tools.Steady)
    (code : String) :
    Steady (restoreSixCharacters tools code) := by
  unfold restoreSixCharacters
  split
  · exact .pure _
  · exact decode_steady hTools _ _ _

theorem restoreDigitTable_steady
    (hTools : tools.Steady)
    (code : String) :
    Steady (restoreDigitTable tools code) := by
  unfold restoreDigitTable
  split
  · exact .pure _
  · split
    · exact .pure _
    · exact .pure _
    · exact (decode_steady hTools _ _ _).bind fun _ => .pure _

end Layers

theorem strategy_steady
    (hTools : tools.Steady)
    (family : Family)
    (code : String)
    (features : Option Features) :
    Steady (strategy tools family code features) := by
  cases family with
  | stringTable => exact restoreStringTable_steady hTools code
  | sixCharacters =>
      exact (Layers.restoreSixCharacters_steady hTools code).bind
        fun _ => .pure _
  | digitTable =>
      exact Layers.restoreDigitTable_steady hTools code
  | custom => exact restoreCustom_steady hTools code features

theorem runStrategy_steady
    (hTools : tools.Steady)
    (family : Family)
    (code : String)
    (features : Option Features) :
    Steady (runStrategy tools family code features) :=
  (strategy_steady hTools family code features).bind
    fun _ => .pure _

end Devirt

------------------------------------------------------------
-- The Whole Way
------------------------------------------------------------

namespace Devirt

variable {σ : Type}

/- The same tools, with instructions asked for or not. -/
def Tools.extracting
    (tools : Tools σ)
    (asked : Bool) :
    Tools σ :=
  { tools with
    options := { tools.options with extractInstructions := asked } }

theorem peel_extracting
    (tools : Tools σ)
    (asked : Bool)
    (passes layer : Nat)
    (text : String) :
    Layers.peel (tools.extracting asked) passes layer text =
      Layers.peel tools passes layer text := by
  induction passes generalizing layer text with
  | zero => rfl
  | succ passes ih =>
      simp only [Layers.peel, ih]
      rfl

/- No strategy looks at whether instructions are asked for. -/
theorem runStrategy_extracting
    (tools : Tools σ)
    (asked : Bool)
    (family : Family)
    (code : String)
    (features : Option Features) :
    runStrategy (tools.extracting asked) family code features =
      runStrategy tools family code features := by
  have hDecode (family : Family) (program : String) :
      Layers.decode (tools.extracting asked) family code
          program =
        Layers.decode tools family code program := by
    simp only [Layers.decode, peel_extracting]
    rfl
  cases family with
  | stringTable => rfl
  | sixCharacters =>
      simp only [runStrategy, strategy,
        Layers.restoreSixCharacters, hDecode]
      rfl
  | digitTable =>
      simp only [runStrategy, strategy,
        Layers.restoreDigitTable, hDecode]
      rfl
  | custom => rfl

/- A detected machine has instructions. -/
theorem extract_ne_nil
    {a : Analysis}
    {code : String}
    {settings : DetectorSettings}
    {features : Features}
    (hDetect : detect a code settings = some features) :
    extract a code features.instructionCount ≠ [] := by
  simp only [detect, Features.ofSignals] at hDetect
  split_ifs at hDetect with hMachine
  cases hDetect
  have hSwitch : (signals a code settings).hasSwitch = true := by
    simp only [Signals.isMachine, Bool.and_eq_true] at hMachine
    exact hMachine.1.1
  rcases (signals_record_switches a code settings).dispatch
      hSwitch with ⟨hPos, place, -, hFirst⟩
  have hLength := hFirst.at_place
  rw [List.getElem?_map, extract_eq_switch a code hPos hFirst]
    at hLength
  intro hNone
  dsimp only at hNone
  simp only [hNone, Option.map_some, List.length_nil,
    Option.some.injEq] at hLength
  omega

/-
  The replay of the instructions of a detected machine, under
  the clock of the tools.
-/
def replayOf
    (tools : Tools σ)
    (settings : Settings)
    (code : String)
    (features : Features) :
    Replay.Report :=
  Replay.execute
    (extract .syntactic code features.instructionCount).toArray
    { settings.replay with
      timeoutMs := tools.options.timeoutMs }
    tools.expired

/-
  A result of the whole way has the script of another, its
  confidence and its unresolved parts.  Its warnings are those
  of a replay, marked as such, and then those of the other.
-/
structure Deobfuscation.Completes
    (d : Deobfuscation)
    (replayed : List Replay.Warning)
    (r : Restoration) : Prop where
  code_eq : d.code = r.code
  confidence_eq : d.confidence = r.confidence
  warnings_eq :
    d.warnings =
      (replayed.map fun w => "symbolic: " ++ w.message) ++
        r.warnings
  unresolved_eq : d.unresolved = r.unresolved

/-
  A result without instructions is another with whatever the
  instructions have added left out.
-/
structure Deobfuscation.Unreplayed
    (plain d : Deobfuscation)
    (replayed : List Replay.Warning) : Prop where
  isMachine_eq : plain.isMachine = d.isMachine
  family_eq : plain.family = d.family
  features_eq : plain.features = d.features
  code_eq : plain.code = d.code
  confidence_eq : plain.confidence = d.confidence
  unresolved_eq : plain.unresolved = d.unresolved
  statistics_eq : plain.statistics = d.statistics
  instructions_eq : plain.instructions = []
  summary_eq : plain.summary = none
  warnings_eq :
    d.warnings =
      (replayed.map fun w => "symbolic: " ++ w.message) ++
        plain.warnings

section Detected

variable {settings : Settings}
variable {code : String}
variable {features : Features}
variable
  (hDetect :
    detect .syntactic code settings.detector = some features)

include hDetect

/- Where no instructions are asked for, none are replayed. -/
theorem deobfuscate_of_unasked
    (tools : Tools σ)
    (memory : σ)
    (hAsked : tools.options.extractInstructions = false) :
    let restored :=
      ((runStrategy tools (Family.ofCode code) code
        (some features)).run memory).1
    ((deobfuscate tools settings code).run memory).1 =
      { isMachine := true
        family := some (Family.ofCode code)
        features := some features
        instructions := []
        code := restored.code
        confidence := restored.confidence
        warnings := restored.warnings
        unresolved := restored.unresolved
        summary := none
        statistics := Statistics.measure code restored.code } := by
  simp only [deobfuscate, hDetect, hAsked]
  rfl

/- What is replayed stands in front of what is restored. -/
theorem deobfuscate_of_asked
    (tools : Tools σ)
    (memory : σ)
    (hAsked : tools.options.extractInstructions = true) :
    let restored :=
      ((runStrategy tools (Family.ofCode code) code
        (some features)).run memory).1
    let replay := replayOf tools settings code features
    ((deobfuscate tools settings code).run memory).1 =
      { isMachine := true
        family := some (Family.ofCode code)
        features := some features
        instructions :=
          extract .syntactic code features.instructionCount
        code := restored.code
        confidence := restored.confidence
        warnings :=
          (replay.warnings.map fun w =>
            "symbolic: " ++ w.message) ++ restored.warnings
        unresolved := restored.unresolved
        summary :=
          some
            ⟨replay.logic, replay.trace.length,
              replay.confidence, replay.constraints.length⟩
        statistics := Statistics.measure code restored.code } := by
  have hSome :
      (extract .syntactic code
        features.instructionCount).isEmpty = false := by
    simpa using extract_ne_nil hDetect
  simp only [deobfuscate, hDetect, hAsked, if_true, hSome,
    Bool.and_false, Bool.false_eq_true, if_false]
  rfl

/- The whole way ends in the strategy of the family. -/
theorem deobfuscate_completes
    (tools : Tools σ)
    (memory : σ) :
    let replayed :=
      if tools.options.extractInstructions then
        (replayOf tools settings code features).warnings
      else
        []
    ((deobfuscate tools settings code).run
        memory).1.Completes replayed
      ((restoreAs tools settings.detector (Family.ofCode code)
        code).run memory).1 := by
  unfold restoreAs
  rw [hDetect]
  cases hAsked : tools.options.extractInstructions with
  | true =>
      rw [deobfuscate_of_asked hDetect tools memory hAsked]
      exact ⟨rfl, rfl, rfl, rfl⟩
  | false =>
      rw [deobfuscate_of_unasked hDetect tools memory hAsked]
      exact ⟨rfl, rfl, rfl, rfl⟩

end Detected

/-
  A detected machine is restored to the same script with the
  same confidence on both ways, and both report the same parts
  as unresolved.  The whole way puts the warnings of the replay
  in front of the others, also where its time was up.  To ask
  for instructions or not makes a difference for the
  instructions and their replay only.
-/
theorem entrances_agree
    (tools : Tools σ)
    (settings : Settings)
    (code : String)
    (features : Features)
    (hDetect :
      detect .syntactic code settings.detector = some features)
    (hTools : tools.Steady)
    (memory other : σ) :
    let whole := fun asked memory =>
      ((deobfuscate (tools.extracting asked) settings
        code).run memory).1
    let alone :=
      ((restoreAs tools settings.detector (Family.ofCode code)
        code).run other).1
    let replayed :=
      (replayOf tools settings code features).warnings
    (∀ asked,
        (whole asked memory).Completes
          (if asked then replayed else []) alone) ∧
      (whole false memory).Unreplayed (whole true other)
        replayed := by
  intro whole alone replayed
  have hSteady :=
    runStrategy_steady hTools (Family.ofCode code) code
      (some features)
  have hAlone (asked : Bool) :
      ((restoreAs (tools.extracting asked) settings.detector
        (Family.ofCode code) code).run memory).1 = alone := by
    simp only [alone, restoreAs, runStrategy_extracting, hDetect]
    exact hSteady memory other
  refine ⟨?_, ?_⟩
  · intro asked
    have hCompletes :=
      deobfuscate_completes hDetect (tools.extracting asked)
        memory
    rw [hAlone asked] at hCompletes
    exact hCompletes
  · have hPlain :=
      deobfuscate_of_unasked hDetect (tools.extracting false)
        memory rfl
    have hFull :=
      deobfuscate_of_asked hDetect (tools.extracting true)
        other rfl
    simp only [runStrategy_extracting] at hPlain hFull
    rw [hSteady memory other] at hPlain
    simp only [whole, hPlain, hFull]
    exact ⟨rfl, rfl, rfl, rfl, rfl, rfl, rfl, rfl, rfl, rfl⟩

/- Idle tools whose clock is up before the first step. -/
def hurriedTools : Tools Unit :=
  { idleTools with expired := fun _ => true }

/- Tools that always answer the same are steady. -/
theorem hurriedTools_steady : hurriedTools.Steady where
  evaluate _ _ := .pure _
  assistant := by
    intro ask hAsk
    cases hAsk

/-
  The smallest machine under a clock that is up at once.  The
  replay takes no step, and warns of that.
-/
theorem smallestMachine_restored :
    ∃ features,
      detect .syntactic smallestMachine
          eagerSettings.detector = some features ∧
        (((deobfuscate (hurriedTools.extracting true)
          eagerSettings smallestMachine).run ()).1).Completes
            [.timedOut 5000 0]
            ((restoreAs hurriedTools eagerSettings.detector
              (Family.ofCode smallestMachine)
                smallestMachine).run ()).1 := by
  have hReplayed :
      (detect .syntactic smallestMachine
          eagerSettings.detector).map
          (fun features =>
            (replayOf hurriedTools eagerSettings
              smallestMachine features).warnings) =
        some [.timedOut 5000 0] := by
    decide +kernel
  rcases Option.map_eq_some_iff.mp hReplayed with
    ⟨features, hFeatures, hWarnings⟩
  have hCompletes :=
    (entrances_agree hurriedTools eagerSettings smallestMachine
      features hFeatures hurriedTools_steady () ()).1 true
  rw [if_pos rfl, hWarnings] at hCompletes
  exact ⟨features, hFeatures, hCompletes⟩

end Devirt

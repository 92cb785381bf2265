import Devirt.Extraction.Extract
import Devirt.Replay.Run
import Devirt.Restoration.Cleanup
import Devirt.Restoration.Layers
import Devirt.Restoration.Report
import Devirt.Restoration.StringTable
import Devirt.Restoration.Wrapper

/-
  The restoration of scripts.

  Each family of scripts has a strategy.  A strategy that breaks off leaves the script as
  it was, and so does one that would leave nothing.

  Key definitions include:
    * `restoreCustom`, `restoreStringTable`, the strategies of two families
    * `restoreAs`, the strategy of any family
    * `deobfuscate`, which finds the family itself
-/

namespace Devirt

------------------------------------------------------------
-- Custom Machines
------------------------------------------------------------

namespace Custom

def baseline : Float := 0.3

def perStep : Float := 0.05

def ceiling : Float := 0.45

/-
  The confidence after so many steps that changed something.
-/
def confidence (steps : Nat) : Float :=
  let x := baseline + perStep * steps.toFloat
  if x < ceiling then x else ceiling

end Custom

/-
  Where the interpreter of a script is.
-/
def interpreterLabel (features : Option Features) : String :=
  match features.bind (·.location) with
  | some l => "interpreter at " ++ l.describe
  | none => "interpreter"

def bytecodePart (features : Option Features) : UnresolvedPart :=
  { location := interpreterLabel features
    reason := "custom VM bytecode semantics are not statically recoverable"
    suggestion :=
      "replay the extracted instructions with the symbolic executor (execute_jsvmp)" }

/-
  Adds what an assistant reports on a script.
-/
def consult
    (tools : Tools σ)
    (code : String)
    (features : Option Features)
    (r : Restoration) :
    StateM σ Restoration := do
  match tools.assistant with
  | none => return r
  | some ask =>
    match (← ask (Report.prompt code features tools.settings.maxPromptChars)).bind
        Report.ofAnswer? with
    | some report => return report.addTo tools.settings.assistantConfidence r
    | none => return r

/-
  Cleans a script up and leaves its bytecode alone.
-/
def restoreCustom (tools : Tools σ) (code : String) (features : Option Features) :
    StateM σ (Except Fault Restoration) := do
  match Cleanup.run tools.options.aggressive code with
  | .error fault => return .error fault
  | .ok (clean, steps) =>
    let result := (Restoration.ofCode clean (Custom.confidence steps)).addUnresolved
      (bytecodePart features)
    return .ok (← consult tools code features result)

------------------------------------------------------------
-- String Tables
------------------------------------------------------------

namespace TableStrategy

def baseline : Float := 0.1

def decodedTable : Float := 0.3

def inlinedReferences : Float := 0.2

def step : Float := 0.1

/-
  A result together with the script as far as it is restored.
-/
structure Progress where
  code : String
  result : Restoration

/-
  The elements of a table, if its evaluation gave a list of them.
-/
def elements? (reply : Sandbox.Reply) : Option (List Json) := do
  let text ← reply.text?
  let v ← Json.parse text
  (v.array?).map (·.map Json.canonical)

/-
  What is noted when a table could not be decoded.
-/
def undecoded (t : StringTable) (reply : Sandbox.Reply) (r : Restoration) : Restoration :=
  if reply.timedOut then
    r.addUnresolved
      ⟨ t.name, "string array evaluation timed out"
      , "increase timeout_ms or decode the table manually" ⟩
  else
    r.warn ("string array decode failed: " ++ reply.error.getD "output was not an array")

/-
  Replaces the references to a table whose elements are known.
-/
def inlineTable (t : StringTable) (values : List Json) (p : Progress) : Except Fault Progress := do
  let result := p.result.raise decodedTable
  let result :=
    if t.isRotated p.code then
      result.warn (t.name ++ " is rotated at runtime; inlined strings may be offset")
    else
      result
  let (inlined, count) ← t.inlineReferences p.code values
  if count > 0 then
    return ⟨inlined, result.raise inlinedReferences⟩
  else
    return ⟨p.code, result.warn ("no indexed references to " ++ t.name ++ " found")⟩

/-
  Decodes the table of a script, if it has one.
-/
def decodeTable (tools : Tools σ) (p : Progress) : StateM σ (Except Fault Progress) := do
  match StringTable.find? p.code with
  | .error fault => return .error fault
  | .ok none => return .ok { p with result := p.result.warn "no _0x string array found" }
  | .ok (some t) =>
    match (CodeMap.ofText p.code).slice t.start t.stop with
    | .error fault => return .error fault
    | .ok written =>
      let reply ← tools.evaluate ("JSON.stringify(" ++ written ++ ")") .deny
      match elements? reply with
      | some values => return inlineTable t values p
      | none => return .ok { p with result := undecoded t reply p.result }

/-
  A change that raises the confidence if it was made.
-/
def advance (change : String → Except Fault (String × Nat)) (p : Progress) :
    Except Fault Progress := do
  let (code, count) ← change p.code
  return if count > 0 then ⟨code, p.result.raise step⟩ else p

/-
  The body of the function that is all of a script, as a change.
-/
def unwrapping (code : String) : Except Fault (String × Nat) := do
  match ← Wrapper.unwrap? code with
  | some body => return (body, 1)
  | none => return (code, 0)

/-
  The changes that need no evaluation.
-/
def tidy (aggressive : Bool) (p : Progress) : Except Fault Progress := do
  let p ← advance Wrapper.stripGuards p
  if aggressive then
    advance collapseHexNumerals (← advance unwrapping p)
  else
    return p

end TableStrategy

/-
  Decodes the table of a script, replaces the references to it and removes guards.
-/
def restoreStringTable (tools : Tools σ) (code : String) :
    StateM σ (Except Fault Restoration) := do
  let first : TableStrategy.Progress :=
    ⟨code, Restoration.ofCode code TableStrategy.baseline⟩
  match ← TableStrategy.decodeTable tools first with
  | .error fault => return .error fault
  | .ok p =>
    return (TableStrategy.tidy tools.options.aggressive p).map fun p =>
      { p.result with code := p.code }

------------------------------------------------------------
-- All Families
------------------------------------------------------------

/-
  The confidence in a script that was left as it was because its strategy broke off.
-/
def fallbackConfidence : Float := 0.1

def strategy (tools : Tools σ) (family : Family) (code : String) (features : Option Features) :
    StateM σ (Except Fault Restoration) :=
  match family with
  | .stringTable => restoreStringTable tools code
  | .sixCharacters => do return .ok (← Layers.restoreSixCharacters tools code)
  | .digitTable => Layers.restoreDigitTable tools code
  | .custom => restoreCustom tools code features

/-
  A result that is not blank, or has the script as it was.
-/
def keepUnlessBlank (code : String) (r : Restoration) : Restoration :=
  if Text.isBlankText r.code then
    { r with code }.warn "strategy produced no code; original kept"
  else
    r

/-
  Runs the strategy of a family.
-/
def runStrategy (tools : Tools σ) (family : Family) (code : String) (features : Option Features) :
    StateM σ Restoration := do
  let result := match ← strategy tools family code features with
    | .ok r => r
    | .error _ =>
      Restoration.fallback code fallbackConfidence
        (family.name ++ " strategy aborted unexpectedly")
  return keepUnlessBlank code result

/-
  Restores a script as one of a family.
-/
def restoreAs (tools : Tools σ) (settings : DetectorSettings) (family : Family) (code : String) :
    StateM σ Restoration :=
  runStrategy tools family code (detect .syntactic code settings)

------------------------------------------------------------
-- The Whole Way
------------------------------------------------------------

/-
  What the replay of extracted instructions showed.
-/
structure ReplaySummary where
  logic : String
  steps : Nat
  confidence : Float
  constraintCount : Nat
  deriving Repr

structure Deobfuscation where
  isMachine : Bool
  family : Option Family
  features : Option Features
  instructions : List Instruction
  code : String
  confidence : Float
  warnings : List String
  unresolved : List UnresolvedPart
  summary : Option ReplaySummary
  statistics : Statistics

namespace Deobfuscation

/-
  The result for a script without an interpreter.
-/
def plain (code : String) : Deobfuscation :=
  { isMachine := false
    family := none
    features := none
    instructions := []
    code
    confidence := 0.0
    warnings := []
    unresolved := []
    summary := none
    statistics := Statistics.measure code code }

/-
  The part that stays unresolved when no instructions were found.
-/
def noHandlersPart (features : Features) : UnresolvedPart :=
  { location := interpreterLabel (some features)
    reason := "no instruction handlers could be extracted"
    suggestion :=
      "locate the dispatch loop manually and supply instructions to execute_jsvmp" }

end Deobfuscation

/-
  Finds the interpreter in a script, replays its instructions and runs the strategy of
  its family.
-/
def deobfuscate (tools : Tools σ) (settings : Settings) (code : String) :
    StateM σ Deobfuscation := do
  match detect .syntactic code settings.detector with
  | none => return .plain code
  | some features =>
    let family := Family.ofCode code
    let asked := tools.options.extractInstructions
    let instructions :=
      if asked then extract .syntactic code features.instructionCount else []
    let missing :=
      if asked && instructions.isEmpty then [Deobfuscation.noHandlersPart features] else []
    let replay :=
      if instructions.isEmpty then
        none
      else
        some (Replay.execute instructions.toArray
          { settings.replay with timeoutMs := tools.options.timeoutMs } tools.expired)
    let replayWarnings := match replay with
      | some r => r.warnings.map fun w => "symbolic: " ++ w.message
      | none => []
    let restored ← runStrategy tools family code (some features)
    return {
      isMachine := true
      family := some family
      features := some features
      instructions
      code := restored.code
      confidence := restored.confidence
      warnings := replayWarnings ++ restored.warnings
      unresolved := missing ++ restored.unresolved
      summary := replay.map fun r => ⟨r.logic, r.trace.length, r.confidence, r.constraints.length⟩
      statistics := Statistics.measure code restored.code }

end Devirt

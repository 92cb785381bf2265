import Devirt.Settings.Basic
import Devirt.Json.Basic

/-
  Reading settings from documents.

  A format says how its nodes stand for numbers, texts, choices and records; the settings
  are read the same way from every format.  A field that is missing takes its default, a
  field that no record has is passed over, and a field with a wrong value refuses the
  whole document.

  Key definitions include:
    * `Format`, `Format.json`
    * `Settings.read`
-/

namespace Devirt

------------------------------------------------------------
-- Formats
------------------------------------------------------------

/-
  How the nodes of a format are understood.  A record is asked for with the names of
  its fields in the order of their declaration, and gives the nodes of those present.
-/
structure Format (Node : Type) where
  natural? : Node → Option Nat
  real? : Node → Option Float
  choice? : Node → Option String
  optionalText? : Node → Option (Option String)
  record? : List String → Node → Option (List (String × Node))

namespace Format

/-
  The value of a field: its default when it is missing, nothing when it is refused.
-/
def field
    (fields : List (String × Node))
    (name : String)
    (default : α)
    (read : Node → Option α) :
    Option α :=
  match fields.find? fun f => f.1 == name with
  | some (_, node) => read node
  | none => some default

/-
  The elements of a list as the fields of a record, in the order of their declaration.
-/
def positional (names : List String) (items : List Node) : Option (List (String × Node)) :=
  if names.length < items.length then none else some (names.zip items)

/-
  The fields with the given names, each of which may be written only once.
-/
def named
    (names : List String)
    (fields : List (String × Node)) :
    Option (List (String × Node)) :=
  let known := fields.filter fun f => names.contains f.1
  if (known.map (·.1)).eraseDups.length == known.length then some known else none

def jsonOptionalText? : Json → Option (Option String)
  | .null => some none
  | .text s => some (some s)
  | _ => none

def jsonRecord? (names : List String) : Json → Option (List (String × Json))
  | .object fields => named names fields
  | .array items => positional names items
  | _ => none

/-
  JSON values: numbers must be written as what they are, and a list stands for a record.
-/
def json : Format Json where
  natural? := Json.nat?
  real? := Json.real?
  choice? := Json.choice?
  optionalText? := jsonOptionalText?
  record? := jsonRecord?

end Format

------------------------------------------------------------
-- Settings
------------------------------------------------------------

def SandboxSettings.read (f : Format Node) (node : Node) : Option SandboxSettings := do
  let d : SandboxSettings := {}
  let fields ← f.record?
    [ "max_concurrency", "grace_ms", "default_timeout_ms", "default_memory_limit_mb"
    , "max_code_bytes", "loop_iterations_per_ms", "recursion_limit", "worker_stack_bytes"
    , "isolation", "worker_program" ] node
  let nat := fun name default => Format.field fields name default f.natural?
  pure {
    maxConcurrency := ← nat "max_concurrency" d.maxConcurrency
    graceMs := ← nat "grace_ms" d.graceMs
    defaultTimeoutMs := ← nat "default_timeout_ms" d.defaultTimeoutMs
    defaultMemoryMb := ← nat "default_memory_limit_mb" d.defaultMemoryMb
    maxCodeBytes := ← nat "max_code_bytes" d.maxCodeBytes
    loopIterationsPerMs := ← nat "loop_iterations_per_ms" d.loopIterationsPerMs
    recursionLimit := ← nat "recursion_limit" d.recursionLimit
    workerStackBytes := ← nat "worker_stack_bytes" d.workerStackBytes
    isolation := ← Format.field fields "isolation" d.isolation
      fun n => (f.choice? n).bind Isolation.ofName?
    workerProgram := ← Format.field fields "worker_program" d.workerProgram f.optionalText? }

def ReplaySettings.read (f : Format Node) (node : Node) : Option ReplaySettings := do
  let d : ReplaySettings := {}
  let fields ← f.record? ["max_steps", "timeout_ms", "logic_preview_lines"] node
  let nat := fun name default => Format.field fields name default f.natural?
  pure {
    maxSteps := ← nat "max_steps" d.maxSteps
    timeoutMs := ← nat "timeout_ms" d.timeoutMs
    previewLines := ← nat "logic_preview_lines" d.previewLines }

def DetectorSettings.read (f : Format Node) (node : Node) : Option DetectorSettings := do
  let d : DetectorSettings := {}
  let fields ← f.record?
    [ "min_switch_cases", "min_array_elements", "max_counter_name_len", "high_complexity"
    , "medium_complexity" ] node
  let nat := fun name default => Format.field fields name default f.natural?
  pure {
    minSwitchCases := ← nat "min_switch_cases" d.minSwitchCases
    minArrayElements := ← nat "min_array_elements" d.minArrayElements
    maxCounterLength := ← nat "max_counter_name_len" d.maxCounterLength
    highComplexity := ← nat "high_complexity" d.highComplexity
    mediumComplexity := ← nat "medium_complexity" d.mediumComplexity }

def StrategySettings.read (f : Format Node) (node : Node) : Option StrategySettings := do
  let d : StrategySettings := {}
  let fields ← f.record?
    ["encoded_size_limit", "assistant_confidence", "max_prompt_chars"] node
  pure {
    encodedSizeLimit := ← Format.field fields "encoded_size_limit" d.encodedSizeLimit f.natural?
    assistantConfidence :=
      ← Format.field fields "assistant_confidence" d.assistantConfidence f.real?
    maxPromptChars := ← Format.field fields "max_prompt_chars" d.maxPromptChars f.natural? }

def Settings.read (f : Format Node) (node : Node) : Option Settings := do
  let fields ← f.record? ["sandbox", "symbolic", "detector", "restore"] node
  pure {
    sandbox := ← Format.field fields "sandbox" {} (SandboxSettings.read f)
    replay := ← Format.field fields "symbolic" {} (ReplaySettings.read f)
    detector := ← Format.field fields "detector" {} (DetectorSettings.read f)
    strategy := ← Format.field fields "restore" {} (StrategySettings.read f) }

end Devirt

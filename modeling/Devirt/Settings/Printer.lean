import Devirt.Settings.Basic
import Devirt.Json.Printer
import Devirt.Yaml.Printer

/-
  Writing settings.

  The fields are listed once, in the order of their declaration, and written from that
  list in every format.

  Key definitions include:
    * `Setting`, `Settings.sections`
    * `Settings.toJson`
    * `Settings.writeJson`, `Settings.writeYaml`
-/

namespace Devirt

------------------------------------------------------------
-- Sections
------------------------------------------------------------

/-
  The value of one field.
-/
inductive Setting where
  | natural (n : Nat)
  | real (x : Float)
  | text (s : String)
  | absent
  deriving Repr

def Setting.ofOption : Option String → Setting
  | some s => .text s
  | none => .absent

def SandboxSettings.fields (s : SandboxSettings) : List (String × Setting) :=
  [ ("max_concurrency", .natural s.maxConcurrency)
  , ("grace_ms", .natural s.graceMs)
  , ("default_timeout_ms", .natural s.defaultTimeoutMs)
  , ("default_memory_limit_mb", .natural s.defaultMemoryMb)
  , ("max_code_bytes", .natural s.maxCodeBytes)
  , ("loop_iterations_per_ms", .natural s.loopIterationsPerMs)
  , ("recursion_limit", .natural s.recursionLimit)
  , ("worker_stack_bytes", .natural s.workerStackBytes)
  , ("isolation", .text s.isolation.name)
  , ("worker_program", .ofOption s.workerProgram) ]

def ReplaySettings.fields (s : ReplaySettings) : List (String × Setting) :=
  [ ("max_steps", .natural s.maxSteps)
  , ("timeout_ms", .natural s.timeoutMs)
  , ("logic_preview_lines", .natural s.previewLines) ]

def DetectorSettings.fields (s : DetectorSettings) : List (String × Setting) :=
  [ ("min_switch_cases", .natural s.minSwitchCases)
  , ("min_array_elements", .natural s.minArrayElements)
  , ("max_counter_name_len", .natural s.maxCounterLength)
  , ("high_complexity", .natural s.highComplexity)
  , ("medium_complexity", .natural s.mediumComplexity) ]

def StrategySettings.fields (s : StrategySettings) : List (String × Setting) :=
  [ ("encoded_size_limit", .natural s.encodedSizeLimit)
  , ("assistant_confidence", .real s.assistantConfidence)
  , ("max_prompt_chars", .natural s.maxPromptChars) ]

def Settings.sections (s : Settings) : List (String × List (String × Setting)) :=
  [ ("sandbox", s.sandbox.fields)
  , ("symbolic", s.replay.fields)
  , ("detector", s.detector.fields)
  , ("restore", s.strategy.fields) ]

------------------------------------------------------------
-- JSON
------------------------------------------------------------

def Setting.toJson : Setting → Json
  | natural n => .nat n
  | real x => .real x
  | text s => .text s
  | absent => .null

def Settings.toJson (s : Settings) : Json :=
  .object (s.sections.map fun (name, fields) =>
    (name, .object (fields.map fun (key, value) => (key, value.toJson))))

def Settings.writeJson (s : Settings) : String :=
  s.toJson.pretty

------------------------------------------------------------
-- YAML
------------------------------------------------------------

/-
  A value behind its key, up to the end of the line.
-/
def Setting.writeYaml : Setting → String
  | natural n => toString n ++ "\n"
  | real x => Yaml.writeReal x ++ "\n"
  | text s => Yaml.writeText 1 s
  | absent => "null\n"

/-
  One key a line, the fields of a section moved to the right below its name.
-/
def Settings.writeYaml (s : Settings) : String :=
  String.join (s.sections.map fun (name, fields) =>
    name ++ ":\n" ++ String.join (fields.map fun (key, value) =>
      "  " ++ key ++ ": " ++ value.writeYaml))

end Devirt

/-
  Settings of the whole tool.

  Key definitions include:
    * `SandboxSettings`, `Isolation`
    * `ReplaySettings`
    * `DetectorSettings`
    * `StrategySettings`
    * `Settings`, all of them together
-/

namespace Devirt

------------------------------------------------------------
-- The Sandbox
------------------------------------------------------------

/-
  Where untrusted scripts run: in a child process if a worker program is known and on a
  thread otherwise, always in a child process, or always on a thread.
-/
inductive Isolation where
  | auto
  | process
  | thread
  deriving DecidableEq, Repr

namespace Isolation

def name : Isolation → String
  | auto => "auto"
  | process => "process"
  | thread => "thread"

def ofName? (s : String) : Option Isolation :=
  [auto, process, thread].find? fun i => i.name == s

end Isolation

structure SandboxSettings where
  /- requests that may run at the same time -/
  maxConcurrency : Nat := 4
  /- what a request gets beyond its own time before it is given up -/
  graceMs : Nat := 2000
  defaultTimeoutMs : Nat := 5000
  defaultMemoryMb : Nat := 128
  maxCodeBytes : Nat := 1048576
  loopIterationsPerMs : Nat := 10000
  recursionLimit : Nat := 256
  workerStackBytes : Nat := 8388608
  isolation : Isolation := .auto
  workerProgram : Option String := none
  deriving DecidableEq, Repr

------------------------------------------------------------
-- Replay, Detector and Strategies
------------------------------------------------------------

structure ReplaySettings where
  maxSteps : Nat := 1000
  timeoutMs : Nat := 5000
  /- steps shown by the listing -/
  previewLines : Nat := 10
  deriving DecidableEq, Repr

structure DetectorSettings where
  minSwitchCases : Nat := 10
  minArrayElements : Nat := 50
  maxCounterLength : Nat := 3
  highComplexity : Nat := 100
  mediumComplexity : Nat := 50
  deriving DecidableEq, Repr

structure StrategySettings where
  /- encoded scripts of more bytes are not evaluated -/
  encodedSizeLimit : Nat := 102400
  assistantConfidence : Float := 0.6
  maxPromptChars : Nat := 4000
  deriving Repr

structure Settings where
  sandbox : SandboxSettings := {}
  replay : ReplaySettings := {}
  detector : DetectorSettings := {}
  strategy : StrategySettings := {}
  deriving Repr

end Devirt

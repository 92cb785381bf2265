import Devirt.Sandbox.Execute

/-
  What a restoration works with, and what comes of it.

  It works with its options, the sandbox, a clock and perhaps an assistant.  Sandbox and
  assistant may remember what they were asked, so asking them is a step from one state to
  the next; what the state is does not matter here.

  A result carries the restored script, how far it can be trusted, what the reader should
  be warned of, and the parts that stay unresolved.

  Key definitions include:
    * `Options`
    * `Tools`
    * `clampConfidence`
    * `Restoration`, with `Restoration.raise` and `Restoration.warn`
    * `Statistics`
-/

namespace Devirt

------------------------------------------------------------
-- Options
------------------------------------------------------------

structure Options where
  aggressive : Bool := false
  extractInstructions : Bool := true
  timeoutMs : Nat := 5000
  /- the layers of an encoded script that are decoded at most -/
  maxIterations : Nat := 5
  deriving DecidableEq, Repr

namespace Options

/-
  Options from a document; what is missing takes its default.
-/
def ofJson? (v : Json) : Option Options := do
  let d : Options := {}
  let fields ← match v with
    | .object fields =>
      Format.named ["aggressive", "extract_instructions", "timeout_ms", "max_iterations"] fields
    | _ => none
  pure {
    aggressive := ← Format.field fields "aggressive" d.aggressive Json.bool?
    extractInstructions :=
      ← Format.field fields "extract_instructions" d.extractInstructions Json.bool?
    timeoutMs := ← Format.field fields "timeout_ms" d.timeoutMs Json.nat?
    maxIterations := ← Format.field fields "max_iterations" d.maxIterations Json.nat? }

end Options

------------------------------------------------------------
-- Tools
------------------------------------------------------------

/-
  Someone who answers questions in free text, or fails to.
-/
abbrev Assistant (σ : Type) := String → StateM σ (Option String)

structure Tools (σ : Type) where
  /- evaluates a script, within the time that the options give -/
  evaluate : String → Realm.DynamicCode → StateM σ Sandbox.Reply
  assistant : Option (Assistant σ)
  settings : StrategySettings
  options : Options
  /- whether the time of a replay is up after a number of steps -/
  expired : Nat → Bool := fun _ => options.timeoutMs == 0

/-
  Asks a sandbox to evaluate a script.
-/
def Sandbox.evaluate
    (host : Sandbox.Host)
    (timeoutMs : Nat)
    (code : String)
    (dynamicCode : Realm.DynamicCode) :
    StateM Sandbox Sandbox.Reply := fun s =>
  s.execute host { Sandbox.Request.ofCode code s.settings with timeoutMs, dynamicCode }

------------------------------------------------------------
-- Confidence
------------------------------------------------------------

/-
  A confidence between zero and one; what is no number counts as none.
-/
def clampConfidence (x : Float) : Float :=
  if x.isNaN then 0.0
  else if x < 0.0 then 0.0
  else if x > 1.0 then 1.0
  else x

------------------------------------------------------------
-- Results
------------------------------------------------------------

structure UnresolvedPart where
  location : String
  reason : String
  suggestion : String
  deriving DecidableEq, Repr

structure Restoration where
  code : String
  confidence : Float
  warnings : List String
  unresolved : List UnresolvedPart
  deriving Repr

namespace Restoration

def ofCode (code : String) (confidence : Float) : Restoration :=
  ⟨code, clampConfidence confidence, [], []⟩

/-
  The script as it was given, with the reason why.
-/
def fallback (code : String) (confidence : Float) (warning : String) : Restoration :=
  ⟨code, clampConfidence confidence, [warning], []⟩

def warn (r : Restoration) (warning : String) : Restoration :=
  { r with warnings := r.warnings ++ [warning] }

def setConfidence (r : Restoration) (confidence : Float) : Restoration :=
  { r with confidence := clampConfidence confidence }

def raise (r : Restoration) (amount : Float) : Restoration :=
  r.setConfidence (r.confidence + amount)

def addUnresolved (r : Restoration) (part : UnresolvedPart) : Restoration :=
  { r with unresolved := r.unresolved ++ [part] }

end Restoration

------------------------------------------------------------
-- Statistics
------------------------------------------------------------

/-
  Sizes in bytes, and the share of the script that was removed.
-/
structure Statistics where
  givenSize : Nat
  restoredSize : Nat
  reductionRate : Float
  deriving Repr

def Statistics.measure (given restored : String) : Statistics :=
  let before := given.utf8ByteSize
  let after := restored.utf8ByteSize
  ⟨before, after, if before = 0 then 0.0 else 1.0 - after.toFloat / before.toFloat⟩

end Devirt

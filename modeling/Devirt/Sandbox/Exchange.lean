import Devirt.Json.Printer
import Devirt.Json.Reader
import Devirt.Realm.Outcome
import Devirt.Settings.Reader

/-
  What a sandbox and its worker tell each other.

  The worker gets one document with a script and the limits of its realm, and answers with
  one document that tells the outcome.  An undefined value and a null value are told apart.

  Key definitions include:
    * `Job`, `Job.toJson`, `Job.ofJson?`
    * `Realm.Outcome.toJson`, `Realm.Outcome.ofJson?`
    * `serve`, the worker
-/

namespace Devirt

------------------------------------------------------------
-- Requests
------------------------------------------------------------

namespace Realm.Limits

def fieldNames : List String :=
  ["loop_iterations", "recursion", "stack_size", "max_string_length", "dynamic_code"]

def toJson (l : Limits) : Json :=
  .object
    [ ("loop_iterations", .nat l.loopIterations), ("recursion", .nat l.recursion)
    , ("stack_size", .nat l.stackSize), ("max_string_length", .nat l.maxStringLength)
    , ("dynamic_code", .text l.dynamicCode.name) ]

/-
  Limits from a document, which has to name all of them.
-/
def ofJson? (v : Json) : Option Limits := do
  let fields ← Format.json.record? fieldNames v
  let part := fun name => (fields.find? fun f => f.1 == name).map (·.2)
  pure {
    loopIterations := ← (part "loop_iterations").bind Json.nat?
    recursion := ← (part "recursion").bind Json.nat?
    stackSize := ← (part "stack_size").bind Json.nat?
    maxStringLength := ← (part "max_string_length").bind Json.nat?
    dynamicCode := ← ((part "dynamic_code").bind Json.choice?).bind DynamicCode.ofName? }

end Realm.Limits

/-
  A script and the limits of its realm.
-/
structure Job where
  code : String
  limits : Realm.Limits
  deriving Repr

namespace Job

def toJson (j : Job) : Json :=
  .object [("code", .text j.code), ("limits", j.limits.toJson)]

def ofJson? (v : Json) : Option Job := do
  let fields ← Format.json.record? ["code", "limits"] v
  let part := fun name => (fields.find? fun f => f.1 == name).map (·.2)
  pure {
    code := ← (part "code").bind Json.text?
    limits := ← (part "limits").bind Realm.Limits.ofJson? }

end Job

------------------------------------------------------------
-- Answers
------------------------------------------------------------

namespace Realm.Outcome

def toJson : Outcome → Json
  | completed none => .object [("outcome", .text "undefined")]
  | completed (some v) => .object [("outcome", .text "value"), ("value", v)]
  | failed message => .object [("outcome", .text "failed"), ("message", .text message)]
  | limitExceeded message =>
    .object [("outcome", .text "limit_exceeded"), ("message", .text message)]

def ofJson? (v : Json) : Option Outcome := do
  let message := (v.field? "message").bind Json.text?
  match ← (v.field? "outcome").bind Json.text? with
  | "undefined" => some (completed none)
  | "value" => (v.field? "value").map fun x => completed (some x)
  | "failed" => message.map failed
  | "limit_exceeded" => message.map limitExceeded
  | _ => none

end Realm.Outcome

------------------------------------------------------------
-- The Worker
------------------------------------------------------------

/-
  How a realm answers to a script; nothing is given if it takes too long.
-/
abbrev Evaluator := String → Realm.Limits → Option Realm.Outcome

/-
  How a worker ends.
-/
inductive Service where
  | answered (reply : String)
  /- what it was told is no job -/
  | refused
  /- its realm gives no answer -/
  | silent
  deriving DecidableEq, Repr

/-
  A worker: it reads one job and answers with its outcome.
-/
def serve (evaluate : Evaluator) (input : String) : Service :=
  match (Json.parse input).bind Job.ofJson? with
  | none => .refused
  | some job =>
    match evaluate job.code job.limits with
    | some outcome => .answered outcome.toJson.compact
    | none => .silent

end Devirt

import Devirt.Json.Basic
import Devirt.Realm.Bootstrap
import Devirt.Realm.Display
import Devirt.Realm.Setup
import Devirt.Script.Parser

/-
  What becomes of a script.

  A script runs in a world of its own, after the script that prepares it.

  Key definitions include:
    * `Outcome`
    * `runScript`
    * `run`
-/

namespace Devirt

namespace Realm

open Script (Tree)

------------------------------------------------------------
-- Outcomes
------------------------------------------------------------

/-
  A script ends with a value or without one, it fails, or it reaches a limit.
-/
inductive Outcome where
  | completed (value : Option Json)
  | failed (message : String)
  | limitExceeded (message : String)
  deriving Repr, BEq, Inhabited

/-
  A number as it is reported.
-/
def reportNumber (x : Float) : Json :=
  if Decimal.isExactWhole x then .int (Decimal.toInteger x)
  else if x.isNaN || x.isInf then .text (Decimal.describe x)
  else .number (.real x)

/-
  A value as it is reported: nothing for an undefined one, and what would be shown for one
  that is no primitive value.
-/
def World.report (w : World) : Value → Option Json
  | .undefined => none
  | .null => some .null
  | .bool b => some (.bool b)
  | .number x => some (reportNumber x)
  | .string s => some (.text s.toText)
  | v => some (.text (w.shown v))

/-
  The text of what broke a script off; nothing if nobody waited for it.
-/
def World.describe (w : World) : Abrupt → Option String
  | .thrown v => some (w.shown v)
  | .limit message => some ("RuntimeLimit: " ++ message)
  | .suspended => some "suspended"
  | .finishing _ => some "finished"
  | .stuck => none

------------------------------------------------------------
-- Scripts
------------------------------------------------------------

/-
  The environment of the statements of a script.
-/
def globalEnv (isStrict : Bool) : Env :=
  { frames := []
    thisCell := 0
    callee := none
    newTarget := .undefined
    home := none
    isStrict }

/-
  Fails if a name that a script declares is taken.
-/
def checkLocalName (x : String) : Run Unit := do
  let w ← get
  if w.lexicals.any fun b => b.1 == x then
    raiseError .parsing ("duplicate lexical declaration: " ++ x)
  match (← getObject Intrinsic.global.ref).own? (Key.ofString x) with
  | some p =>
    if !p.isConfigurable then
      raiseError .parsing ("cannot redefine non-configurable global property: " ++ x)
  | none => pure ()

/-
  Declares the names of a script: functions and hoisted names become members of the
  global object.
-/
def enterScript (env : Env) (statements : List Tree) : Run Unit := do
  let functions := Tree.declaredFunctions statements
  let locals := localCells statements
  locals.forM fun (x, _) => checkLocalName x
  for x in Tree.hoistedNamesOf statements ++ functions.map (·.1) do
    if (← get).lexicals.any fun b => b.1 == x then
      raiseError .parsing ("duplicate lexical declaration: " ++ x)
  let cells ← makeCells locals
  modify fun w => { w with lexicals := cells ++ w.lexicals }
  for (x, f) in functions do
    let v ← declaredClosure env x f
    let done ← defineOwn Intrinsic.global.ref (Key.ofString x)
      { value := some v
        isWritable := some true
        isEnumerable := some true
        isConfigurable := some false }
    if !done then
      throwType ("cannot declare global function: " ++ x)
  for x in Tree.hoistedNamesOf statements do
    let k := Key.ofString x
    if ((← getObject Intrinsic.global.ref).own? k).isNone then
      updateObject Intrinsic.global.ref fun o => o.put k ⟨.data .undefined true, true, false⟩

/-
  Runs a script and gives the value that it leaves.
-/
def runScript (code : String) : Run Value := do
  match Tree.parse? code with
  | some (.node (.program isStrict) statements) =>
    let env := globalEnv isStrict
    modify fun w => { w with rounds := 0 }
    enterScript env statements
    match ← executeList machine env statements none with
    | .normal (some v) => return v
    | _ => return .undefined
  | _ => raiseError .parsing "the script is not well formed"

/-
  Whether a text speaks of a limit.
-/
def mentionsLimit (message : String) : Bool :=
  let has := fun (part : String) => Text.occursIn part.toList message.toList
  has "RuntimeLimit" || (has "Maximum" && has "limit" && has "exceeded")

/-
  Runs a script in a new realm; nothing is given if it takes longer than anybody waits.
-/
def run (code : String) (limits : Limits) : Option Outcome :=
  match (runScript (prelude limits)).toEnd machine (World.initial limits) with
  | (.error e, w) =>
    (w.describe e).map fun message => .failed ("realm bootstrap failed: " ++ message)
  | (.ok _, w) =>
    match (runScript code).toEnd machine w with
    | (.ok v, w) => some (.completed (w.report v))
    | (.error e, w) =>
      (w.describe e).map fun message =>
        if mentionsLimit message then .limitExceeded message else .failed message

end Realm

end Devirt

import Devirt.Restoration.Outcome
import Devirt.Detection.Family
import Devirt.Source.CodeMap

/-
  Scripts that are encoded as expressions.

  An encoded script hands its source to a function that makes code from text.  In the
  sandbox this function gives the text back, so evaluating the script gives its source.
  That may again be such a script: it begins with `return`, and is evaluated in turn.

  Key definitions include:
    * `Layers.entryCall?`
    * `Layers.peel`
    * `Layers.decode`
-/

namespace Devirt

namespace Layers

------------------------------------------------------------
-- Confidence
------------------------------------------------------------

def decodedConfidence : Float := 0.9

def notTextConfidence : Float := 0.2

def failedConfidence : Float := 0.1

------------------------------------------------------------
-- The Entry
------------------------------------------------------------

open Pattern

/-
  The call with which a script encoded by a digit table ends: a member of a name, called
  with a call of a member of a name.
-/
def entry : Pattern :=
  let name := seq (one isNameStart) (many isName 0 none)
  sequence
    [ start, blanks, group 1 name, literal ".$(", blanks, group 2 name, literal ".$(" ]

/-
  The characters before the last line that is not blank, and those from it on.
-/
def splitLastLine (cs : List Char) : Option (List Char × List Char) :=
  let trimmed := Text.dropEnd Text.isBlank cs
  if trimmed.isEmpty then
    none
  else
    let lastLine := (trimmed.reverse.takeWhile (· != '\n')).length
    some (cs.take (trimmed.length - lastLine), cs.drop (trimmed.length - lastLine))

def byteLength (cs : List Char) : Nat := (String.ofList cs).utf8ByteSize

/-
  The script whose value is the source that the last line of an encoded script would
  run: of the two calls, only the inner one is left.
-/
def entryCall? (code : String) : Except Fault (Option String) := do
  match splitLastLine code.toList with
  | none => return none
  | some (lead, line) =>
    match entry.matchFrom (beginning line) with
    | none => return none
    | some (found, _) =>
      let name := found.groupText line 2
      if found.groupText line 1 == name then
        let m := CodeMap.ofText code
        let opening := byteLength lead + byteLength (line.take found.stop) - 1
        match ← m.matchingClose opening with
        | none => return none
        | some close =>
          let payload ← m.slice (opening + 1) close
          return some (String.ofList lead ++ String.ofList name ++ ".$(" ++ payload ++ ")()")
      else
        return none

------------------------------------------------------------
-- Layers
------------------------------------------------------------

/-
  Why an evaluation gave no text.
-/
structure Failure where
  reason : String
  confidence : Float
  timedOut : Bool
  deriving Repr

/-
  The text that an evaluation gave, or why it gave none.
-/
def classify (reply : Sandbox.Reply) : Except Failure String :=
  if reply.ok then
    match reply.text? with
    | some text => .ok text
    | none => .error ⟨"evaluation did not produce a string", notTextConfidence, reply.timedOut⟩
  else
    .error
      ⟨reply.error.getD "sandbox evaluation failed", failedConfidence, reply.timedOut⟩

/-
  Whether a text has to be evaluated in turn.
-/
def isLayer (text : String) : Bool :=
  Text.startsWith "return".toList (text.toList.dropWhile Text.isBlank)

/-
  A script that gives what a text returns.
-/
def wrap (text : String) : String := "(function () \x7b " ++ text ++ " \x7d)()"

/-
  Decodes further layers of a text, so many at most, and tells why it stopped early.  The
  layers are numbered.
-/
def peel (tools : Tools σ) : Nat → Nat → String → StateM σ (String × List String)
  | 0, _, text => return (text, [])
  | passes + 1, layer, text => do
    if isLayer text then
      match classify (← tools.evaluate (wrap text) .capture) with
      | .ok next => peel tools passes (layer + 1) next
      | .error failure =>
        return (text, ["layer " ++ toString layer ++ " left encoded: " ++ failure.reason])
    else
      return (text, [])

/-
  The part that stays unresolved when time ran out.
-/
def timeoutPart (family : Family) : UnresolvedPart :=
  ⟨family.name, "payload evaluation timed out", "increase timeout_ms"⟩

/-
  The result for a script whose first evaluation gave no text.
-/
def failed (family : Family) (code : String) (failure : Failure) : Restoration :=
  let result := Restoration.fallback code failure.confidence failure.reason
  if failure.timedOut then result.addUnresolved (timeoutPart family) else result

/-
  Evaluates the program of an encoded script and decodes its layers.
-/
def decode (tools : Tools σ) (family : Family) (code program : String) : StateM σ Restoration := do
  let passes := max tools.options.maxIterations 1
  match classify (← tools.evaluate program .capture) with
  | .error failure => return failed family code failure
  | .ok text =>
    let (last, warnings) ← peel tools (passes - 1) 2 text
    return { Restoration.ofCode last decodedConfidence with warnings }

/-
  The result for a script that is too long to be evaluated.
-/
def refusal? (tools : Tools σ) (family : Family) (code : String) : Option Restoration :=
  let size := code.utf8ByteSize
  if size > tools.settings.encodedSizeLimit then
    some (.fallback code failedConfidence
      (family.name ++ " input of " ++ toString size ++ " bytes exceeds the "
        ++ toString tools.settings.encodedSizeLimit ++ " byte limit; not evaluated"))
  else
    none

/-
  Restores a script of six characters.
-/
def restoreSixCharacters (tools : Tools σ) (code : String) : StateM σ Restoration :=
  match refusal? tools .sixCharacters code with
  | some refused => return refused
  | none => decode tools .sixCharacters code (Text.trim code)

/-
  Restores a script encoded by a digit table.
-/
def restoreDigitTable (tools : Tools σ) (code : String) :
    StateM σ (Except Fault Restoration) := do
  match refusal? tools .digitTable code with
  | some refused => return .ok refused
  | none =>
    match entryCall? code with
    | .error fault => return .error fault
    | .ok none =>
      return .ok (.fallback code failedConfidence
        (Family.digitTable.name ++ " entry point not found on the last line"))
    | .ok (some program) => return .ok (← decode tools .digitTable code program)

end Layers

end Devirt

import Devirt.Detection.Scan
import Devirt.Json.Reader
import Devirt.Restoration.Outcome
import Devirt.Settings.Reader

/-
  What an assistant is asked and what it reports.

  Nobody checks what an assistant says: it only adds warnings and unresolved parts to a
  result, and never touches the script.

  Key definitions include:
    * `Report.prompt`
    * `Report.ofAnswer?`
    * `Report.addTo`
-/

namespace Devirt

/-
  What an assistant found.
-/
structure Report where
  warnings : List String
  unresolved : List UnresolvedPart
  deriving DecidableEq, Repr

namespace Report

------------------------------------------------------------
-- Questions
------------------------------------------------------------

/-
  What is known of the interpreter.
-/
def describeFeatures (f : Features) : String :=
  "Detected interpreter: " ++ toString f.instructionCount ++ " handlers, complexity "
    ++ f.complexity.name
    ++ (match f.location with
        | some l => ", dispatch switch at " ++ l.describe
        | none => "")
    ++ ".\n"

/-
  The question about a script, of which so many characters are shown.
-/
def prompt (code : String) (features : Option Features) (maxChars : Nat) : String :=
  let excerpt := code.toList.take maxChars
  let note := if excerpt.length < code.toList.length then " (truncated)" else ""
  "The following JavaScript is protected by an unidentified virtual-machine obfuscator.\n"
    ++ ((features.map describeFeatures).getD "")
    ++ "Reply with JSON only: \x7b\"warnings\": [string], \"unresolvedParts\": "
    ++ "[\x7b\"location\": string, \"reason\": string, \"suggestion\": string\x7d]\x7d.\n"
    ++ "Source" ++ note ++ ":\n" ++ String.ofList excerpt

------------------------------------------------------------
-- Answers
------------------------------------------------------------

def partOfJson? (v : Json) : Option UnresolvedPart := do
  let fields ← Format.json.record? ["location", "reason", "suggestion"] v
  let part := fun name => (fields.find? fun f => f.1 == name).bind fun f => f.2.text?
  pure ⟨← part "location", ← part "reason", ← part "suggestion"⟩

def listOf (read : Json → Option α) (v : Json) : Option (List α) :=
  v.array?.bind fun items => items.mapM read

def ofJson? (v : Json) : Option Report := do
  let fields ← Format.json.record? ["warnings", "unresolved_parts"] v
  pure {
    warnings := ← Format.field fields "warnings" [] (listOf Json.text?)
    unresolved := ← Format.field fields "unresolved_parts" [] (listOf partOfJson?) }

def partFields : List Json.Field :=
  ["location", "reason", "suggestion"].map fun name => { name, value := Json.readText }

def warningsField : Json.Field where
  name := "warnings"
  value := Json.readListOf Json.readText

def partsField : Json.Field where
  name := "unresolved_parts"
  aliases := ["unresolvedParts"]
  value := Json.readListOf (Json.readRecord partFields)

/-
  The report that a text writes.  Whatever else stands in it is passed over.
-/
def ofText? (text : String) : Option Report :=
  (Json.parseWith (Json.readRecord [warningsField, partsField]) text).bind ofJson?

/-
  The part of a text from the first opening to the last closing brace.
-/
def braced? (cs : List Char) : Option (List Char) :=
  let fromOpening := cs.dropWhile (· != '\x7b')
  let upToClosing := (fromOpening.reverse.dropWhile (· != '\x7d')).reverse
  if upToClosing.isEmpty then none else some upToClosing

/-
  The report in an answer, which may stand among other text.
-/
def ofAnswer? (answer : String) : Option Report :=
  match ofText? (Text.trim answer) with
  | some report => some report
  | none => do
    let inner ← braced? answer.toList
    ofText? (String.ofList inner)

------------------------------------------------------------
-- Results
------------------------------------------------------------

/-
  A result with the findings of a report, at a given confidence.
-/
def addTo (report : Report) (confidence : Float) (r : Restoration) : Restoration :=
  { r with
    warnings := r.warnings ++ report.warnings.map ("assistant: " ++ ·)
    unresolved := r.unresolved ++ report.unresolved
    confidence := clampConfidence confidence }

end Report

end Devirt

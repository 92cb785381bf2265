import Devirt.Detection.SwitchBody
import Devirt.Pattern.Basic
import Devirt.Script.Parser
import Devirt.Script.Render
import Devirt.Settings.Basic
import Devirt.Source.Location
import Devirt.Text.Blank
import Devirt.Text.Classes

/-
  The recognition of virtual machines.

  A script holds a virtual machine when it has a switch statement with many cases, an
  array or a counter that such a switch would be fed by, and a loop, an indirect call or
  a decoding of digits that would drive it.  A script that parses is searched for these
  signs as a tree; any other is searched as masked text.

  Key definitions include:
    * `Signals`, `Signals.isMachine`, `Signals.noteSwitch`
    * `Complexity`, `Features`
    * `Lexical.signals`, `Syntactic.signals`
    * `Analysis`
    * `signals`, `Features.ofSignals`
    * `detect`
-/

namespace Devirt

------------------------------------------------------------
-- Signals
------------------------------------------------------------

structure Signals where
  /- the number of cases of the largest switch statement -/
  maxCases : Nat := 0
  /- the place of that statement among all switch statements of the script -/
  ordinal : Option Nat := none
  hasSwitch : Bool := false
  hasArray : Bool := false
  hasCounter : Bool := false
  hasApply : Bool := false
  hasLoop : Bool := false
  hasDecode : Bool := false
  /- whether the script could be parsed -/
  fromTree : Bool := false
  deriving DecidableEq, Repr

namespace Signals

def isMachine (s : Signals) : Bool :=
  s.hasSwitch && (s.hasArray || s.hasCounter) && (s.hasApply || s.hasLoop || s.hasDecode)

/-
  Takes note of a switch statement; of statements with equally many cases the first
  one is kept.
-/
def noteSwitch
    (settings : DetectorSettings)
    (s : Signals)
    (ordinal cases : Nat) :
    Signals :=
  { s with
    hasSwitch := s.hasSwitch || settings.minSwitchCases < cases
    maxCases := if s.maxCases < cases then cases else s.maxCases
    ordinal := if s.maxCases < cases then some ordinal else s.ordinal }

end Signals

------------------------------------------------------------
-- Complexity
------------------------------------------------------------

inductive Complexity where
  | low
  | medium
  | high
  deriving DecidableEq, Repr

namespace Complexity

def name : Complexity → String
  | low => "low"
  | medium => "medium"
  | high => "high"

def ofCount (count : Nat) (settings : DetectorSettings) : Complexity :=
  if settings.highComplexity < count then high
  else if settings.mediumComplexity < count then medium
  else low

end Complexity

------------------------------------------------------------
-- Features
------------------------------------------------------------

/-
  What is known about the virtual machine of a script.
-/
structure Features where
  instructionCount : Nat
  location : Option Location
  complexity : Complexity
  hasSwitch : Bool
  hasArray : Bool
  hasCounter : Bool
  deriving DecidableEq, Repr

namespace Lexical

open Pattern

------------------------------------------------------------
-- Patterns
------------------------------------------------------------

/-
  Square brackets with no further square brackets between them; what they enclose is
  remembered.
-/
def array : Pattern :=
  sequence [char '[', group 1 (many (noneOf ['[', ']']) 0 none), char ']']

def step : Pattern :=
  alt (literal "++") (literal "--")

/-
  A name of at most `tail + 1` characters.
-/
def shortName (tail : Nat) : Pattern :=
  seq (one isNameStart) (many isName 0 (some tail))

/-
  A short name that is counted up or down.
-/
def counter (tail : Nat) : Pattern :=
  alt
    (sequence [beforeName, shortName tail, blanks, step])
    (sequence [step, blanks, shortName tail, alt (one fun c => !isName c) stop])

/-
  The longest tail for which names are searched at all.
-/
def longestTail : Nat := 100

def apply : Pattern :=
  sequence [literal ".apply", blanks, char '(']

/-
  A loop that can only be left from within.
-/
def endlessLoop : Pattern :=
  alt
    (sequence
      [ literal "while", blanks, char '(', blanks
      , choice [literal "true", literal "1", literal "!0", literal "!![]"]
      , blanks, char ')' ])
    (sequence
      [ literal "for", blanks, char '(', blanks, char ';', blanks, char ';', blanks, char ')' ])

/-
  Digits that are put together before they are read as a number.
-/
def decode : Pattern :=
  sequence
    [ literal "parseInt", blanks, char '(', blanks, many (noneOf [',', '(', ')']) 0 none
    , char '+' ]

------------------------------------------------------------
-- Signals of a Text
------------------------------------------------------------

/-
  Whether the text between two brackets lists more elements than a bound.
-/
def listsMoreThan (bound : Nat) (body : List Char) : Bool :=
  !body.all Text.isBlank && bound < body.count ',' + 1

def hasLongArray (bound : Nat) (masked : List Char) : Bool :=
  (array.all masked).any fun m => listsMoreThan bound (m.groupText masked 1)

def hasCounter (maxLength : Nat) (masked : List Char) : Bool :=
  maxLength - 1 ≤ longestTail && (counter (maxLength - 1)).occurs masked

/-
  Takes note of switch statements from a number on.
-/
def noteSwitches
    (m : CodeMap)
    (settings : DetectorSettings) :
    Nat → List Nat → Signals → Signals
  | _, [], s => s
  | ordinal, offset :: rest, s =>
    let cases := ((m.switchBody? offset).map (·.labels.length)).getD 0
    noteSwitches m settings (ordinal + 1) rest (s.noteSwitch settings ordinal cases)

/-
  The signs found in the text of a script.
-/
def signals (code : String) (settings : DetectorSettings) : Signals :=
  let m := CodeMap.ofText code
  let masked := m.masked
  { noteSwitches m settings 0 (m.keywordOffsets "switch") {} with
    hasArray := hasLongArray settings.minArrayElements masked
    hasCounter := hasCounter settings.maxCounterLength masked
    hasApply := apply.occurs masked
    hasLoop := endlessLoop.occurs masked
    hasDecode := decode.occurs masked }

end Lexical

namespace Syntactic

open Script

------------------------------------------------------------
-- Single Nodes of a Tree
------------------------------------------------------------

/-
  The conditions that are known to hold, as they are written out.
-/
def alwaysTrue : List String := ["true", "1", "!0", "!![]", "!!1"]

def holdsAlways (test : Tree) : Bool :=
  alwaysTrue.contains (Text.trim test.render)

/-
  The characters around the target of a count.
-/
def isCountMark (c : Char) : Bool :=
  c == '+' || c == '-' || Text.isBlank c

/-
  Whether a count has a name of at most so many characters as its target.
-/
def countsShortName (maxLength : Nat) (t : Tree) : Bool :=
  let target := Text.dropEnd isCountMark (t.render.toList.dropWhile isCountMark)
  !target.isEmpty && target.all (fun c => Text.isAlphanumeric c || c == '_' || c == '$')
    && target.length ≤ maxLength

def endsWith (ending text : String) : Bool :=
  Text.endsWith ending.toList text.toList

def isSum (t : Tree) : Bool :=
  match t.label with
  | .binary .add => true
  | _ => false

/-
  Whether a function reads a number from digits that are put together first.
-/
def decodes (f : Tree) (arguments : List Tree) : Bool :=
  let name := f.render
  (name == "parseInt" || endsWith ".parseInt" name) && (arguments.head?.any isSum)

def applies (f : Tree) : Bool :=
  endsWith ".apply" f.render

------------------------------------------------------------
-- Signals of a Tree
------------------------------------------------------------

/-
  The signs found so far, and the number of switch statements seen.
-/
structure Search where
  signals : Signals
  switches : Nat

/-
  Takes note of one node.
-/
def note (settings : DetectorSettings) (s : Search) (t : Tree) : Search :=
  let found := s.signals
  match t with
  | .node .switch (_ :: cases) =>
    ⟨found.noteSwitch settings s.switches cases.length, s.switches + 1⟩
  | .node .array items =>
    { s with signals :=
        { found with hasArray := found.hasArray || settings.minArrayElements < items.length } }
  | .node (.update _ _) _ =>
    { s with signals :=
        { found with
          hasCounter := found.hasCounter || countsShortName settings.maxCounterLength t } }
  | .node .call (f :: arguments) =>
    { s with signals :=
        { found with
          hasDecode := found.hasDecode || decodes f arguments
          hasApply := found.hasApply || applies f } }
  | .node .new (f :: arguments) =>
    { s with signals :=
        { found with
          hasDecode := found.hasDecode || decodes f arguments
          hasApply := found.hasApply || applies f } }
  | .node .whileLoop (test :: _) =>
    { s with signals := { found with hasLoop := found.hasLoop || holdsAlways test } }
  | .node .doLoop [_, test] =>
    { s with signals := { found with hasLoop := found.hasLoop || holdsAlways test } }
  | .node .forLoop (_ :: .node .absent _ :: _) =>
    { s with signals := { found with hasLoop := true } }
  | .node .forLoop (_ :: test :: _) =>
    { s with signals := { found with hasLoop := found.hasLoop || holdsAlways test } }
  | _ => s

/-
  The signs found in the tree of a script.
-/
def signals (t : Tree) (settings : DetectorSettings) : Signals :=
  (t.nodes.foldl (note settings) ⟨{ fromTree := true }, 0⟩).signals

end Syntactic

------------------------------------------------------------
-- Detection
------------------------------------------------------------

/-
  How scripts are looked at: as trees where they parse, or always as texts.
-/
inductive Analysis where
  | syntactic
  | lexical
  deriving DecidableEq, Repr

/-
  The tree of a script, as far as the analysis asks for it.
-/
def Analysis.tree? (a : Analysis) (code : String) : Option Script.Tree :=
  match a with
  | .syntactic => Script.Tree.parse? code
  | .lexical => none

/-
  The signs of an interpreter in a script.
-/
def signals (a : Analysis) (code : String) (settings : DetectorSettings) : Signals :=
  match a.tree? code with
  | some t => Syntactic.signals t settings
  | none => Lexical.signals code settings

/-
  Where the switch statement with a number stands.
-/
def switchLocation? (code : String) (ordinal : Nat) : Option Location :=
  ((CodeMap.ofText code).keywordOffsets "switch")[ordinal]?.map
    (Location.ofOffset (Scanner.bytesOf code))

/-
  The features of a script with the given signs, if they show a machine.
-/
def Features.ofSignals
    (code : String)
    (s : Signals)
    (settings : DetectorSettings) :
    Option Features :=
  if s.isMachine then
    some
      { instructionCount := s.maxCases
        location := s.ordinal.bind (switchLocation? code)
        complexity := Complexity.ofCount s.maxCases settings
        hasSwitch := s.hasSwitch
        hasArray := s.hasArray
        hasCounter := s.hasCounter }
  else
    none

/-
  The features of the machine in a script, if there is one.
-/
def detect (a : Analysis) (code : String) (settings : DetectorSettings) : Option Features :=
  Features.ofSignals code (signals a code settings) settings

end Devirt

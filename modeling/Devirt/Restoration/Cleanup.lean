import Devirt.Source.Edit

/-
  Cautious simplifications of scripts: constants of truth values, branches without
  effect and choices that are already made.

  Key definitions include:
    * `Cleanup.foldBooleans`
    * `Cleanup.dropEmptyBranches`
    * `Cleanup.dropSettledChoices`
    * `Cleanup.run`, all of them
-/

namespace Devirt

namespace Cleanup

open Pattern

------------------------------------------------------------
-- Truth Values
------------------------------------------------------------

/-
  A character that neither continues a name nor selects a member.
-/
def isSeparator (c : Char) : Bool := !(isName c || c == '.')

/-
  A negated digit that stands alone, replaced by a truth value.
-/
def negatedDigit (digit : String) (value : String) : Rule where
  pattern := sequence
    [ group 1 (alt start (one isSeparator)), literal digit
    , group 2 (alt (one isSeparator) stop) ]
  replace masked found :=
    some (found.groupText masked 1 ++ value.toList ++ found.groupText masked 2)

def booleanRules : List Rule :=
  [ .constant (literal "!![]") "true"
  , .constant (literal "![]") "false"
  , negatedDigit "!0" "true"
  , negatedDigit "!1" "false"
  , .constant (seq (literal "!true") edge) "false"
  , .constant (seq (literal "!false") edge) "true" ]

/-
  Applies rules one after the other and counts the changes.
-/
def applyAll : List Rule → String → Except Fault (String × Nat)
  | [], code => .ok (code, 0)
  | r :: rest, code => do
    let (code, count) ← r.apply code
    let (code, more) ← applyAll rest code
    return (code, count + more)

/-
  Applies the rules for truth values until nothing changes, for so many rounds at most.
-/
def foldRounds : Nat → String → Except Fault (String × Nat)
  | 0, code => .ok (code, 0)
  | rounds + 1, code => do
    let (next, count) ← applyAll booleanRules code
    if count == 0 then
      return (next, 0)
    else
      let (last, more) ← foldRounds rounds next
      return (last, count + more)

/-
  The rounds in which truth values are folded.
-/
def mostRounds : Nat := 4

def foldBooleans (code : String) : Except Fault (String × Nat) := foldRounds mostRounds code

------------------------------------------------------------
-- Branches and Choices
------------------------------------------------------------

/-
  The characters of names and chains of members.
-/
def isChain (c : Char) : Bool := isName c || c == '.'

/-
  A branch on a plain condition that does nothing, unless another one follows it.
-/
def emptyBranch : Rule where
  pattern := sequence
    [ edge, literal "if", blanks, char '(', blanks, many (· == '!') 0 none, many isChain 1 none
    , blanks, char ')', blanks, char '{', blanks, char '}', blanks, optional (char ';')
    , optional (group 1 (sequence [blanks, literal "else", edge])) ]
  replace _ found := if (found.group? 1).isNone then some [] else none

def dropEmptyBranches (code : String) : Except Fault (String × Nat) := emptyBranch.apply code

/-
  A choice between two plain values whose condition is known, or whose values are the
  same.
-/
def settledChoice : Rule where
  pattern := sequence
    [ group 1 (choice
        [start, one (oneOf ['=', '(', ',', ';', '{', '}', '[']), seq edge (literal "return")])
    , group 2 blanks
    , group 3 (many isChain 1 none), blanks, char '?', blanks
    , group 4 (many isChain 1 none), blanks, char ':', blanks
    , group 5 (many isChain 1 none)
    , group 6 (seq blanks (alt (one (oneOf [';', ',', ')', ']', '}'])) stop)) ]
  replace masked found :=
    let text := found.groupText masked
    let condition := text 3
    let chosen :=
      if condition == "true".toList then some (text 4)
      else if condition == "false".toList then some (text 5)
      else if text 4 == text 5 then some (text 4)
      else none
    chosen.map fun value => text 1 ++ text 2 ++ value ++ text 6

def dropSettledChoices (code : String) : Except Fault (String × Nat) := settledChoice.apply code

/-
  A stop for debuggers.
-/
def debuggerStop : Rule :=
  .constant (sequence [edge, literal "debugger", edge, blanks, optional (char ';')]) ""

def dropDebuggerStops (code : String) : Except Fault (String × Nat) := debuggerStop.apply code

------------------------------------------------------------
-- All Together
------------------------------------------------------------

/-
  The steps of a clean-up, of which the last is taken only if it may be aggressive.
-/
def steps (aggressive : Bool) : List (String → Except Fault (String × Nat)) :=
  [foldBooleans, dropEmptyBranches, dropSettledChoices]
    ++ (if aggressive then [dropDebuggerStops] else [])

/-
  Takes steps one after the other and counts those that change something.
-/
def takeSteps : List (String → Except Fault (String × Nat)) → String → Except Fault (String × Nat)
  | [], code => .ok (code, 0)
  | step :: rest, code => do
    let (next, count) ← step code
    let (last, more) ← takeSteps rest next
    return (last, (if count > 0 then 1 else 0) + more)

/-
  A script after all steps, and the number of steps that changed something.
-/
def run (aggressive : Bool) (code : String) : Except Fault (String × Nat) :=
  takeSteps (steps aggressive) code

end Cleanup

end Devirt

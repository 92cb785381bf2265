import Devirt.Pattern.Basic
import Devirt.Source.CodeMap

/-
  Changes of a script that touch nothing but its code.

  A rule looks for a pattern in the masked text of a script.  Where the whole match is
  code, the rule may replace it.  Since the masked text has one character for each byte, a
  match can begin or end inside a character of the script; replacing such a match is a
  `Fault`.

  Key definitions include:
    * `Edit`, `CodeMap.applyEdits`
    * `Rule`, `Rule.edits`
    * `Rule.apply`, which also tells the number of changes
-/

namespace Devirt

------------------------------------------------------------
-- Edits
------------------------------------------------------------

/-
  A part of a script, by the offsets of its bytes, and the text that replaces it.
-/
structure Edit where
  start : Nat
  stop : Nat
  replacement : String
  deriving DecidableEq, Repr

namespace CodeMap

/-
  The bytes from an offset on with edits made, which are in order and do not overlap.
-/
def editedFrom (offset : Nat) (bytes : List UInt8) : List Edit → List UInt8
  | [] => bytes
  | e :: rest =>
    bytes.take (e.start - offset) ++ Scanner.bytesOf e.replacement
      ++ editedFrom e.stop (bytes.drop (e.stop - offset)) rest

/-
  Whether an edit replaces whole characters.
-/
def isWhole (m : CodeMap) (e : Edit) : Bool :=
  m.isBoundary e.start && m.isBoundary e.stop

/-
  Whether edits are in order from an offset on and none overlaps another.
-/
def inOrder : Nat → List Edit → Bool
  | _, [] => true
  | offset, e :: rest => offset ≤ e.start && e.start ≤ e.stop && inOrder e.stop rest

/-
  The script with edits made.
-/
def applyEdits (m : CodeMap) (edits : List Edit) : Except Fault String :=
  if inOrder 0 edits && edits.all m.isWhole then .ok (textOf (editedFrom 0 m.bytes edits))
  else .error .splitCharacter

/-
  Whether everything between two offsets is code.
-/
def isCodeBetween (m : CodeMap) (start stop : Nat) : Bool :=
  (m.cells.extract start stop).all (·.isCode)

end CodeMap

------------------------------------------------------------
-- Rules
------------------------------------------------------------

/-
  A pattern and what its matches are replaced by; a match may also be left alone.
-/
structure Rule where
  pattern : Pattern
  replace : List Char → Pattern.Match → Option (List Char)

namespace Rule

/-
  A rule that replaces every match by the same text.
-/
def constant (pattern : Pattern) (replacement : String) : Rule :=
  ⟨pattern, fun _ _ => some replacement.toList⟩

/-
  The edits that a rule makes in a script.
-/
def edits (r : Rule) (m : CodeMap) : List Edit :=
  let masked := m.masked
  (r.pattern.all masked).filterMap fun found =>
    if m.isCodeBetween found.start found.stop then
      (r.replace masked found).map fun cs => ⟨found.start, found.stop, String.ofList cs⟩
    else
      none

/-
  A script after a rule, and the number of changes.
-/
def apply (r : Rule) (code : String) : Except Fault (String × Nat) := do
  let m := CodeMap.ofText code
  let edits := r.edits m
  return (← m.applyEdits edits, edits.length)

end Rule

end Devirt

import Devirt.Source.CodeMap

/-
  The bodies of switch statements, found without parsing the script.

  From a switch keyword the search goes to the next opening parenthesis, to the bracket
  that closes it, to the next opening brace and to the brace that closes that one.  The
  labels are the `case` and `default` keywords between the braces that stand in no
  further braces.

  Key definitions include:
    * `SwitchBody`
    * `CodeMap.switchBody?`
-/

namespace Devirt

/-
  The offsets of the labels of a switch statement, in order, and of its closing brace.
-/
structure SwitchBody where
  labels : List Nat
  close : Nat
  deriving DecidableEq, Repr

namespace CodeMap

open Scanner

/-
  The offset of the bracket that closes the one at an offset of code.  Counting that
  starts at an opening bracket in the code never meets a closing bracket first.
-/
def close? (m : CodeMap) (start : Nat) : Option Nat :=
  match m.matchingClose start with
  | .ok found => found
  | .error _ => none

/-
  The braces in the code that are open after some cells, where more closing than opening
  ones may have been met.
-/
def openBraces (cells : List Cell) : Int :=
  cells.foldl
    (fun depth c =>
      if !c.isCode then depth
      else if c.byte == byte '{' then depth + 1
      else if c.byte == byte '}' then depth - 1
      else depth)
    0

/-
  The braces in the code that are open between two offsets.
-/
def braceDepth (m : CodeMap) (start stop : Nat) : Nat :=
  (openBraces ((m.cells.toList.drop start).take (stop - start))).toNat

/-
  The offsets of all keywords that can label a part of a switch statement, in order.
-/
def labelOffsets (m : CodeMap) : List Nat :=
  (m.keywordOffsets "case" ++ m.keywordOffsets "default").mergeSort

/-
  The body of the switch statement whose keyword stands at an offset.
-/
def switchBody? (m : CodeMap) (start : Nat) : Option SwitchBody := do
  let paren ← m.nextCode start (byte '(')
  let parenClose ← m.close? paren
  let opening ← m.nextCode parenClose (byte '{')
  let close ← m.close? opening
  let labels := m.labelOffsets.filter fun offset =>
    opening < offset && offset < close && m.braceDepth opening offset == 1
  pure ⟨labels, close⟩

end CodeMap

end Devirt

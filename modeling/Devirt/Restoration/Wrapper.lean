import Devirt.Source.Edit

/-
  Functions that are called where they are written.

  Key definitions include:
    * `Wrapper`, `Wrapper.at?`, the extent of such a call
    * `Wrapper.stripGuardsBy`, `Wrapper.stripGuards`
    * `Wrapper.unwrapBy`, `Wrapper.unwrap?`
-/

namespace Devirt

/-
  The offsets of a function that is called where it is written: of the whole call, and of
  the braces around the body.
-/
structure Wrapper where
  start : Nat
  stop : Nat
  bodyOpen : Nat
  bodyClose : Nat
  deriving DecidableEq, Repr

namespace Wrapper

open Pattern

------------------------------------------------------------
-- Extent
------------------------------------------------------------

/-
  Whether some bytes, blanks apart, begin and end with round brackets.
-/
def isCall (bytes : List UInt8) : Bool :=
  let compact := bytes.filter fun b => !Scanner.isSpace b
  compact.head? == some (Scanner.byte '(') && compact.getLast? == some (Scanner.byte ')')

/-
  Where the function that begins at an offset ends, with the bracket around it if it has
  one.
-/
def functionEnd?
    (closer : Closer)
    (m : CodeMap)
    (start bodyClose : Nat) :
    Except Fault (Option (Nat × Bool)) := do
  if (← m.byteAt start) == Scanner.byte '(' then
    match ← closer m start with
    | some close => return if close < bodyClose then none else some (close + 1, true)
    | none => return none
  else
    return some (bodyClose + 1, false)

/-
  Where the call of a function ends that ends at an offset.
-/
def callEnd?
    (closer : Closer)
    (m : CodeMap)
    (bodyClose stop : Nat)
    (isBracketed : Bool) :
    Except Fault (Option Nat) := do
  let callOpen := m.skipSpace stop
  if m.byte? callOpen == some (Scanner.byte '(') then
    return (← closer m callOpen).map (· + 1)
  else if isBracketed then
    let tail ← m.bytesBetween (bodyClose + 1) stop
    return if isCall tail then some stop else none
  else
    return none

/-
  An offset behind a semicolon, if one follows.
-/
def afterSemicolon (m : CodeMap) (stop : Nat) : Nat :=
  let next := m.skipSpace stop
  if m.byte? next == some (Scanner.byte ';') then next + 1 else stop

/-
  The call that begins at an offset, if there is one.
-/
def at? (closer : Closer) (m : CodeMap) (start : Nat) : Except Fault (Option Wrapper) := do
  match m.nextCode start (Scanner.byte '{') with
  | none => return none
  | some bodyOpen =>
    match ← closer m bodyOpen with
    | none => return none
    | some bodyClose =>
      match ← functionEnd? closer m start bodyClose with
      | none => return none
      | some (stop, isBracketed) =>
        match ← callEnd? closer m bodyClose stop isBracketed with
        | none => return none
        | some stop => return some ⟨start, afterSemicolon m stop, bodyOpen, bodyClose⟩

------------------------------------------------------------
-- Guards
------------------------------------------------------------

/-
  The beginning of a function that may be called where it is written.
-/
def beginning : Pattern :=
  alt
    (sequence [one (oneOf ['(', '!']), blanks, literal "function", edge])
    (sequence [char '(', blanks, char '(', blanks, char ')', blanks, literal "=>"])

/-
  Texts that show that a function guards against debugging or changes.
-/
def guardMarks : List String :=
  [ "debugger", "[native code]", "while (true) \x7b\x7d", "while(true)\x7b\x7d", "console.clear"
  , "toString().search" ]

/-
  Whether a call is a guard: it has one of the marks and is no more than half of the
  script.
-/
def isGuard (m : CodeMap) (w : Wrapper) : Except Fault Bool := do
  let text ← m.slice w.start w.stop
  return (w.stop - w.start) * 2 ≤ m.size
    && guardMarks.any fun mark => Text.occursIn mark.toList text.toList

/-
  The guards among the calls that begin at some offsets, none inside another one.
-/
def guardsFrom (closer : Closer) (m : CodeMap) :
    Nat → List Match → Except Fault (List Wrapper)
  | _, [] => .ok []
  | last, found :: rest =>
    if found.start < last || !m.isCode found.start then
      guardsFrom closer m last rest
    else do
      match ← at? closer m found.start with
      | none => guardsFrom closer m last rest
      | some w =>
        if ← isGuard m w then
          return w :: (← guardsFrom closer m w.stop rest)
        else
          guardsFrom closer m last rest

/-
  A script without its guards, and their number, with brackets found in a given way.
-/
def stripGuardsBy (closer : Closer) (code : String) : Except Fault (String × Nat) := do
  let m := CodeMap.ofText code
  let guards ← guardsFrom closer m 0 (beginning.all m.masked)
  let stripped ← m.applyEdits (guards.map fun w => ⟨w.start, w.stop, ""⟩)
  return (stripped, guards.length)

def stripGuards (code : String) : Except Fault (String × Nat) :=
  stripGuardsBy CodeMap.matchingClose code

------------------------------------------------------------
-- Unwrapping
------------------------------------------------------------

/-
  What may follow the body of a function that is called without arguments.
-/
def plainTails : List String := [")()", ")();", "())", "());", "()", "();"]

/-
  Whether the head of a function names no parameters.
-/
def hasNoParameters (head : String) : Bool :=
  Text.endsWith "()".toList (Text.squeeze head).toList || Text.occursIn "()".toList head.toList

/-
  A text without a directive for strict code at its beginning.
-/
def dropDirective (body : List Char) : List Char :=
  match Text.dropPrefix? "'use strict';".toList body with
  | some rest => rest
  | none => (Text.dropPrefix? "\"use strict\";".toList body).getD body

/-
  The body of the function that is all of a script, with brackets found in a given way.
-/
def unwrapBy (closer : Closer) (code : String) : Except Fault (Option String) := do
  let m := CodeMap.ofText code
  let start := m.skipSpace 0
  match ← at? closer m start with
  | none => return none
  | some w =>
    let after ← m.slice w.stop m.size
    let head ← m.slice start w.bodyOpen
    let tail ← m.slice (w.bodyClose + 1) w.stop
    let body ← m.slice (w.bodyOpen + 1) w.bodyClose
    if Text.isBlankText after && hasNoParameters head && plainTails.contains (Text.squeeze tail) then
      let body := dropDirective (Text.trim body).toList
      return some (Text.trim (String.ofList body))
    else
      return none

def unwrap? (code : String) : Except Fault (Option String) :=
  unwrapBy CodeMap.matchingClose code

end Wrapper

end Devirt

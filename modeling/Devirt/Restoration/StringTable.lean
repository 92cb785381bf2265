import Devirt.Json.Printer
import Devirt.Source.Edit
import Devirt.Source.Literal

/-
  Tables of strings with names made of hexadecimal digits.

  Key definitions include:
    * `StringTable`, `StringTable.findBy`, `StringTable.find?`
    * `StringTable.isRotated`
    * `StringTable.inlineReferences`
-/

namespace Devirt

/-
  A table: its name, and the offsets between which its elements are written.
-/
structure StringTable where
  name : String
  start : Nat
  stop : Nat
  deriving DecidableEq, Repr

namespace StringTable

open Pattern

------------------------------------------------------------
-- Finding Tables
------------------------------------------------------------

/-
  The beginning of the declaration of a table, up to its opening bracket.
-/
def declaration : Pattern :=
  sequence
    [ choice [literal "var", literal "let", literal "const"], many Text.isBlank 1 none
    , group 1 (seq (literal "_0x") (many isHex 1 none)), blanks, char '=', blanks, char '[' ]

/-
  The first of some declarations whose brackets are closed.
-/
def firstClosed (closer : Closer) (m : CodeMap) (masked : List Char) :
    List Match → Except Fault (Option StringTable)
  | [] => .ok none
  | found :: rest =>
    let opening := found.stop - 1
    if m.isCode found.start then do
      match ← closer m opening with
      | some close =>
        return some ⟨String.ofList (found.groupText masked 1), opening, close + 1⟩
      | none => firstClosed closer m masked rest
    else
      firstClosed closer m masked rest

/-
  The first table of a script, with its brackets found in a given way.
-/
def findBy (closer : Closer) (code : String) : Except Fault (Option StringTable) :=
  let m := CodeMap.ofText code
  let masked := m.masked
  firstClosed closer m masked (declaration.all masked)

def find? (code : String) : Except Fault (Option StringTable) :=
  findBy CodeMap.matchingClose code

------------------------------------------------------------
-- Rotation
------------------------------------------------------------

def isQuote (c : Char) : Bool := c == '\'' || c == '"'

/-
  A member between brackets and quotes.
-/
def quotedMember (name : String) : Pattern :=
  sequence
    [char '[', blanks, one isQuote, literal name, one isQuote, blanks, char ']']

def member (name : String) : Pattern :=
  alt (literal ("." ++ name)) (quotedMember name)

/-
  Code that puts the first element of a table behind the last.
-/
def rotation (name : String) : Pattern :=
  alt
    (sequence
      [ literal name, blanks, member "push", blanks, char '(', blanks, literal name, blanks
      , member "shift", blanks, char '(', blanks, char ')', blanks, char ')' ])
    (sequence
      [ quotedMember "push", blanks, char '(', blanks, many isName 1 none, blanks
      , quotedMember "shift" ])

def isRotated (t : StringTable) (code : String) : Bool :=
  (rotation t.name).occurs code.toList

------------------------------------------------------------
-- References
------------------------------------------------------------

def isDigit (c : Char) : Bool := '0' ≤ c && c ≤ '9'

/-
  A reference to an element by its number.
-/
def reference (name : String) : Pattern :=
  sequence
    [ group 1 beforeName, literal name, blanks, char '[', blanks
    , group 2 (alt
        (sequence [char '0', one (oneOf ['x', 'X']), many isHex 1 none])
        (many isDigit 1 none))
    , blanks, char ']' ]

/-
  The element that a numeral asks for.
-/
def element? (values : List Json) (numeral : List Char) : Option Json := do
  let x ← Literal.number? (String.ofList numeral)
  if x < values.length.toFloat then values[x.toUInt64.toNat]? else none

/-
  References are replaced by the elements they ask for, if there are any.
-/
def inlining (name : String) (values : List Json) : Rule where
  pattern := reference name
  replace masked found :=
    (element? values (found.groupText masked 2)).map fun v =>
      found.groupText masked 1 ++ v.compact.toList

/-
  A script with the references after its table replaced, and their number.
-/
def inlineReferences (t : StringTable) (code : String) (values : List Json) :
    Except Fault (String × Nat) := do
  let m := CodeMap.ofText code
  let head ← m.slice 0 t.stop
  let rest ← m.slice t.stop m.size
  let (rest, count) ← (inlining t.name values).apply rest
  return (head ++ rest, count)

end StringTable

------------------------------------------------------------
-- Numerals
------------------------------------------------------------

/-
  Hexadecimal numerals that fit in fifty-two bits are written in decimal.
-/
def hexNumeral : Rule where
  pattern := Pattern.sequence
    [ .group 1 Pattern.beforeName, .one (· == '0'), .one (Pattern.oneOf ['x', 'X'])
    , .group 2 (.many Pattern.isHex 1 (some 13)), .edge ]
  replace masked found :=
    let digits := found.groupText masked 2
    let value := digits.foldl (fun n c => 16 * n + (Literal.hexValue? c).getD 0) 0
    some (found.groupText masked 1 ++ (toString value).toList)

def collapseHexNumerals (code : String) : Except Fault (String × Nat) := hexNumeral.apply code

end Devirt

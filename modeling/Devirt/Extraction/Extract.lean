import Devirt.Detection.Scan
import Devirt.Machine.Document

/-
  The instructions of a virtual machine.

  The interpreter is the first switch statement with the expected number of cases, found
  in the tree of a script that parses and in the masked text of any other.  In a text the
  body of a case goes from the colon after its label to the next label.  What a body was
  seen to do tells the instruction.

  Key definitions include:
    * `Shape`, `Shape.category`
    * `Instruction.ofCase`
    * `Lexical.shape`, `Lexical.instructions`
    * `Syntactic.shape`, `Syntactic.instructions`
    * `extract`
-/

namespace Devirt

------------------------------------------------------------
-- Shapes
------------------------------------------------------------

structure Shape where
  pushes : Bool := false
  indexes : Bool := false
  assigns : Bool := false
  computes : Bool := false
  /- `continue`, `if`, `while` or `return` -/
  branches : Bool := false
  /- nearly every body ends with `break`, so it decides only where nothing else does -/
  breaks : Bool := false
  calls : Bool := false
  deriving DecidableEq, Repr

namespace Shape

def category (s : Shape) : Category :=
  if s.pushes && s.indexes then .load
  else if s.assigns && !s.computes && !s.calls then .store
  else if s.computes then .arithmetic
  else if s.branches then .control
  else if s.calls then .call
  else if s.breaks then .control
  else .unknown

end Shape

def Category.description : Category → String
  | load => "pushes an indexed read onto the stack"
  | store => "assigns a value without computing it"
  | arithmetic => "applies a binary operator"
  | control => "alters the interpreter control flow"
  | call => "invokes a function"
  | unknown => "no recognised effect"

namespace Instruction

/-
  The instruction of the case with the given place, label and body.  The default case
  has no label and goes by its place.
-/
def ofCase
    (index : Nat)
    (label : Option Literal)
    (shape : Shape) :
    Instruction :=
  let opcode := label.getD (.number (Decimal.ofNat index))
  { opcode
    name := "op_" ++ opcode.describe
    category := shape.category
    description := shape.category.description
    operands := [] }

end Instruction

namespace Lexical

open Pattern

------------------------------------------------------------
-- Patterns of a Body
------------------------------------------------------------

def push : Pattern :=
  sequence [literal ".push", blanks, char '(']

/-
  The end of something that can be indexed, called or computed with.
-/
def operandEnd : Pattern :=
  one fun c => isName c || c == ']' || c == ')'

def indexed : Pattern :=
  sequence [operandEnd, blanks, char '[']

def assignment : Pattern :=
  sequence
    [ alt start (one (noneOf ['=', '!', '<', '>', '+', '-', '*', '/', '%', '&', '|', '^']))
    , char '='
    , alt (one (· != '=')) stop ]

def operators : List Char := ['+', '-', '*', '/', '%', '^', '&', '|']

def computation : Pattern :=
  alt
    (sequence
      [ operandEnd, blanks
      , choice
          [ one (oneOf operators), literal "<<", seq (literal ">>") (optional (char '>')) ]
      , blanks
      , one fun c => isName c || c == '(' || c == '[' ])
    (seq (one (oneOf operators)) (char '='))

/-
  One of some words, standing alone.
-/
def words (ws : List String) : Pattern :=
  sequence [edge, choice (ws.map literal), edge]

def branching : Pattern :=
  words ["continue", "if", "while", "return"]

def breaking : Pattern :=
  words ["break"]

def call : Pattern :=
  sequence [operandEnd, blanks, char '(']

------------------------------------------------------------
-- Bodies in a Text
------------------------------------------------------------

/-
  The body without the words that look like names of called functions.
-/
def withoutKeywords (body : List Char) : List Char :=
  breaking.replaceAll [' '] (branching.replaceAll [' '] (push.replaceAll [' ', '('] body))

def shape (body : List Char) : Shape :=
  { pushes := push.occurs body
    indexes := indexed.occurs body
    assigns := assignment.occurs body
    computes := computation.occurs body
    branches := branching.occurs body
    breaks := breaking.occurs body
    calls := call.occurs (withoutKeywords body) }

------------------------------------------------------------
-- Instructions of a Text
------------------------------------------------------------

/-
  The label written between two offsets; the default case has none.
-/
def label? (m : CodeMap) (start stop : Nat) : Option Literal := do
  let header ← (m.slice start stop).toOption
  let rest ← Text.dropPrefix? "case".toList header.toList
  pure (Literal.ofLabel (String.ofList rest))

/-
  The instruction of the case that begins and ends at the given offsets.
-/
def instruction
    (m : CodeMap)
    (masked : List Char)
    (index start stop : Nat) :
    Instruction :=
  match (m.nextCode start (Scanner.byte ':')).filter (· < stop) with
  | none => .ofCase index none {}
  | some colon =>
    .ofCase index (label? m start colon) (shape (part masked (colon + 1) stop))

/-
  The instructions of consecutive labels, the last of which ends at the closing brace.
-/
def instructionsFrom
    (m : CodeMap)
    (masked : List Char)
    (close : Nat) :
    Nat → List Nat → List Instruction
  | _, [] => []
  | index, [here] => [instruction m masked index here close]
  | index, here :: next :: rest =>
    instruction m masked index here next
      :: instructionsFrom m masked close (index + 1) (next :: rest)

/-
  The instructions of the first switch statement with the expected number of labels.
-/
def instructions (code : String) (expected : Nat) : List Instruction :=
  let m := CodeMap.ofText code
  let bodies := (m.keywordOffsets "switch").filterMap m.switchBody?
  match bodies.find? fun b => b.labels.length == expected && 0 < expected with
  | none => []
  | some body => instructionsFrom m m.masked body.close 0 body.labels

end Lexical

------------------------------------------------------------
-- Instructions of a Tree
------------------------------------------------------------

namespace Syntactic

open Script

/-
  Whether a function pushes onto something.
-/
def pushes (f : Tree) : Bool :=
  Text.endsWith ".push".toList f.render.toList

/-
  Whether an access is written with brackets.
-/
def isIndexed (t : Tree) : Bool :=
  (Text.dropEnd Text.isBlank t.render.toList).getLast? == some ']'

def noteCall (s : Shape) (f : Tree) : Shape :=
  if pushes f then { s with pushes := true } else { s with calls := true }

/-
  Takes note of one node of a body.
-/
def noteShape (s : Shape) (t : Tree) : Shape :=
  match t with
  | .node .call (f :: _) => noteCall s f
  | .node .new (f :: _) => noteCall s f
  | .node (.select _) _ | .node .index _ | .node (.selectPrivate _) _ | .node (.selectSuper _) _
  | .node .indexSuper _ => { s with indexes := s.indexes || isIndexed t }
  | .node (.assign op) _ =>
    { s with assigns := true, computes := s.computes || op != .plain }
  | .node (.binary op) _ => { s with computes := s.computes || op.computes }
  | .node (.breakFrom _) _ => { s with breaks := true }
  | .node (.continueTo _) _ => { s with branches := true }
  | .node .ifElse _ => { s with branches := true }
  | .node .whileLoop _ => { s with branches := true }
  | .node .giveBack _ => { s with branches := true }
  | _ => s

def shape (body : List Tree) : Shape :=
  (Tree.nodesOf body).foldl noteShape {}

/-
  The instruction of a case.
-/
def instruction (index : Nat) : Tree → Instruction
  | .node .switchCase (.node .absent _ :: body) => .ofCase index none (shape body)
  | .node .switchCase (test :: body) =>
    .ofCase index (some (Literal.ofLabel test.render)) (shape body)
  | _ => .ofCase index none {}

/-
  The cases of a switch statement with the expected number of them.
-/
def casesOf? (expected : Nat) : Tree → Option (List Tree)
  | .node .switch (_ :: cases) => if cases.length == expected then some cases else none
  | _ => none

/-
  The instructions of the first switch statement with the expected number of cases.
-/
def instructions (t : Tree) (expected : Nat) : List Instruction :=
  match t.nodes.findSome? (casesOf? expected) with
  | some cases => cases.mapIdx instruction
  | none => []

end Syntactic

------------------------------------------------------------
-- Extraction
------------------------------------------------------------

/-
  The instructions of the interpreter with the expected number of cases; there are none
  when no such interpreter is found.
-/
def extract (a : Analysis) (code : String) (expected : Nat) : List Instruction :=
  match a.tree? code with
  | some t => Syntactic.instructions t expected
  | none => Lexical.instructions code expected

end Devirt

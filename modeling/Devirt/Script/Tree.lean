import Devirt.Text.Units

/-
  Scripts as trees.

  Each node of a tree has a label, which says what it is, and parts, which are trees
  themselves and stand in the order in which they are visited.  A part that may be left
  out in a script is there as an `absent` node.  The names under which nodes are built
  and recognised are given after the type, so that the rest of the library speaks of a
  `conditional` with a test and two branches and not of labels and lists.

  Key definitions include:
    * `Label`, `Tree`
    * `Tree.fold`, `Tree.nodes`
-/

namespace Devirt

namespace Script

------------------------------------------------------------
-- Operators
------------------------------------------------------------

inductive UnaryOp where
  | negate | plus | not | complement | typeOf | void | delete
  deriving DecidableEq, Repr

inductive BinaryOp where
  | add | sub | mul | div | rem | exp
  | bitAnd | bitOr | bitXor | shiftLeft | shiftRight | shiftRightZero
  | equal | notEqual | same | notSame
  | less | lessEqual | greater | greaterEqual
  | member | instanceOf
  deriving DecidableEq, Repr

inductive LogicalOp where
  | and | or | coalesce
  deriving DecidableEq, Repr

/-
  Assignment: of a value, of a result computed with the old value, or only if the old
  value asks for it.
-/
inductive AssignOp where
  | plain
  | compute (op : BinaryOp)
  | logical (op : LogicalOp)
  deriving DecidableEq, Repr

def UnaryOp.text : UnaryOp → String
  | negate => "-"
  | plus => "+"
  | not => "!"
  | complement => "~"
  | typeOf => "typeof"
  | void => "void"
  | delete => "delete"

def BinaryOp.text : BinaryOp → String
  | add => "+"
  | sub => "-"
  | mul => "*"
  | div => "/"
  | rem => "%"
  | exp => "**"
  | bitAnd => "&"
  | bitOr => "|"
  | bitXor => "^"
  | shiftLeft => "<<"
  | shiftRight => ">>"
  | shiftRightZero => ">>>"
  | equal => "=="
  | notEqual => "!="
  | same => "==="
  | notSame => "!=="
  | less => "<"
  | lessEqual => "<="
  | greater => ">"
  | greaterEqual => ">="
  | member => "in"
  | instanceOf => "instanceof"

/-
  Whether an operator computes with numbers or bits, in contrast to those that compare
  or test.
-/
def BinaryOp.computes : BinaryOp → Bool
  | add | sub | mul | div | rem | exp => true
  | bitAnd | bitOr | bitXor | shiftLeft | shiftRight | shiftRightZero => true
  | _ => false

def LogicalOp.text : LogicalOp → String
  | and => "&&"
  | or => "||"
  | coalesce => "??"

def AssignOp.text : AssignOp → String
  | plain => "="
  | compute op => op.text ++ "="
  | logical op => op.text ++ "="

------------------------------------------------------------
-- Attributes
------------------------------------------------------------

inductive FunctionKind where
  | normal
  | arrow
  | method
  | getter
  | setter
  | constructor
  | derivedConstructor
  deriving DecidableEq, Repr, Inhabited

/-
  What is known about a function apart from its parameters and its body.
-/
structure FunctionInfo where
  kind : FunctionKind
  isAsync : Bool
  isGenerator : Bool
  isStrict : Bool
  name : Option String
  source : String
  /- whether the code speaks of the arguments as a whole -/
  usesArguments : Bool := false
  deriving DecidableEq, Repr, Inhabited

/-
  How names are declared: for the whole function, for a block, or once and for all.
-/
inductive Declaration where
  | hoisted
  | local
  | constant
  deriving DecidableEq, Repr

def Declaration.text : Declaration → String
  | .hoisted => "var"
  | .local => "let"
  | .constant => "const"

/-
  A piece of a template: what its escapes stand for, if they stand for anything, and how
  it is written.
-/
structure Chunk where
  cooked : Option Units
  raw : Units
  deriving DecidableEq, Repr, Inhabited

------------------------------------------------------------
-- Labels
------------------------------------------------------------

inductive Label where
  /- a part that was left out -/
  | absent
  /- expressions -/
  | this | null | bool (b : Bool) | number (x : Float) | bigint (n : Nat)
  | string (s : Units) | regexp (source flags : String)
  | template (chunks : List Chunk)
  /- a template with its tag; the number tells templates apart -/
  | tagged (site : Nat) (chunks : List Chunk)
  | name (x : String)
  | array | object | function (info : FunctionInfo) | klass (name : Option String) (source : String)
  | unary (op : UnaryOp) | update (up before : Bool)
  | binary (op : BinaryOp) | logical (op : LogicalOp) | conditional
  | assign (op : AssignOp) | comma | paren | spread
  | select (member : String) | index | selectPrivate (member : String)
  | selectSuper (member : String) | indexSuper | testPrivate (member : String)
  | call | callSuper | callImport | new
  | chain | linkSelect (optional : Bool) (member : String) | linkIndex (optional : Bool)
  | linkPrivate (optional : Bool) (member : String) | linkCall (optional : Bool)
  | yield | yieldAll | await | newTarget
  /- the names of members -/
  | keyText (s : Units) | keyComputed | keyPrivate (x : String)
  /- members of objects and classes -/
  | property | shorthand (x : String) | withDefault (x : String) | method
  | member (isStatic : Bool) | field (isStatic : Bool) | staticBlock
  /- patterns -/
  | arrayPattern | objectPattern | propertyPattern (isShort : Bool) | defaulted | rest
  /- parts of functions -/
  | params | body
  /- statements -/
  | empty | debugger | expression | block
  | declare (kind : Declaration) | declarator
  | declareFunction | declareClass
  | ifElse | whileLoop | doLoop | forLoop | forIn | forOf (isAwait : Bool)
  | continueTo (label : Option String) | breakFrom (label : Option String)
  | giveBack | withScope | switch | switchCase | labelled (label : String)
  | raise | attempt | handler
  /- a whole script -/
  | program (isStrict : Bool)
  deriving DecidableEq, Inhabited

------------------------------------------------------------
-- Trees
------------------------------------------------------------

inductive Tree where
  | node (label : Label) (parts : List Tree)

namespace Tree

instance : Inhabited Tree := ⟨.node .absent []⟩

def label : Tree → Label
  | node l _ => l

def parts : Tree → List Tree
  | node _ ps => ps

mutual

/-
  The result of combining, from the leaves up, each node with the results of its parts.
-/
def fold (combine : Tree → List α → α) : Tree → α
  | node l ps => combine (node l ps) (foldAll combine ps)

def foldAll (combine : Tree → List α → α) : List Tree → List α
  | [] => []
  | t :: ts => fold combine t :: foldAll combine ts

end

mutual

/-
  The nodes of a tree, each one before its parts.
-/
def nodes : Tree → List Tree
  | node l ps => node l ps :: nodesOf ps

def nodesOf : List Tree → List Tree
  | [] => []
  | t :: ts => nodes t ++ nodesOf ts

end

mutual

/-
  Whether code speaks of the arguments of the function that it stands in.  Only arrow
  functions have none of their own.
-/
def mentionsArguments : Tree → Bool
  | node l ps =>
    match l with
    | .name x => x == "arguments"
    | .shorthand x => x == "arguments" || anyMentionsArguments ps
    | .withDefault x => x == "arguments" || anyMentionsArguments ps
    | .function info => info.kind == .arrow && anyMentionsArguments ps
    | _ => anyMentionsArguments ps

def anyMentionsArguments : List Tree → Bool
  | [] => false
  | t :: ts => mentionsArguments t || anyMentionsArguments ts

end

mutual

/-
  Whether trees are the same.
-/
def decideEq : (s t : Tree) → Decidable (s = t)
  | node l ps, node k qs =>
    match decEq l k, decideAllEq ps qs with
    | isTrue hLabel, isTrue hParts =>
      isTrue (congr (congrArg node hLabel) hParts)
    | isFalse hLabel, _ => isFalse fun hSame => hLabel (node.inj hSame).1
    | _, isFalse hParts => isFalse fun hSame => hParts (node.inj hSame).2

def decideAllEq : (ss ts : List Tree) → Decidable (ss = ts)
  | [], [] => isTrue rfl
  | [], _ :: _ => isFalse nofun
  | _ :: _, [] => isFalse nofun
  | s :: ss, t :: ts =>
    match decideEq s t, decideAllEq ss ts with
    | isTrue hFirst, isTrue hRest =>
      isTrue (congr (congrArg List.cons hFirst) hRest)
    | isFalse hFirst, _ => isFalse fun hSame => hFirst (List.cons.inj hSame).1
    | _, isFalse hRest => isFalse fun hSame => hRest (List.cons.inj hSame).2

end

instance : DecidableEq Tree := decideEq

------------------------------------------------------------
-- Forms of Nodes
------------------------------------------------------------

@[match_pattern] abbrev absent : Tree := node .absent []

@[match_pattern] abbrev name (x : String) : Tree := node (.name x) []

@[match_pattern] abbrev string (s : Units) : Tree := node (.string s) []

@[match_pattern] abbrev number (x : Float) : Tree := node (.number x) []

@[match_pattern] abbrev array (items : List Tree) : Tree := node .array items

@[match_pattern] abbrev object (properties : List Tree) : Tree := node .object properties

@[match_pattern] abbrev function (info : FunctionInfo) (params body : List Tree) : Tree :=
  node (.function info) [node .params params, node .body body]

@[match_pattern] abbrev klass
    (x : Option String)
    (source : String)
    (parent constructor : Tree)
    (members : List Tree) :
    Tree :=
  node (.klass x source) (parent :: constructor :: members)

@[match_pattern] abbrev unary (op : UnaryOp) (e : Tree) : Tree := node (.unary op) [e]

@[match_pattern] abbrev update (up before : Bool) (target : Tree) : Tree :=
  node (.update up before) [target]

@[match_pattern] abbrev binary (op : BinaryOp) (a b : Tree) : Tree := node (.binary op) [a, b]

@[match_pattern] abbrev logical (op : LogicalOp) (a b : Tree) : Tree := node (.logical op) [a, b]

@[match_pattern] abbrev conditional (test yes no : Tree) : Tree :=
  node .conditional [test, yes, no]

@[match_pattern] abbrev assign (op : AssignOp) (target value : Tree) : Tree :=
  node (.assign op) [target, value]

@[match_pattern] abbrev comma (a b : Tree) : Tree := node .comma [a, b]

@[match_pattern] abbrev paren (e : Tree) : Tree := node .paren [e]

@[match_pattern] abbrev spread (e : Tree) : Tree := node .spread [e]

@[match_pattern] abbrev select (e : Tree) (member : String) : Tree := node (.select member) [e]

@[match_pattern] abbrev index (e i : Tree) : Tree := node .index [e, i]

@[match_pattern] abbrev call (f : Tree) (arguments : List Tree) : Tree :=
  node .call (f :: arguments)

@[match_pattern] abbrev new (f : Tree) (arguments : List Tree) : Tree :=
  node .new (f :: arguments)

@[match_pattern] abbrev chain (e : Tree) (links : List Tree) : Tree :=
  node .chain (e :: links)

@[match_pattern] abbrev property (key value : Tree) : Tree := node .property [key, value]

@[match_pattern] abbrev defaulted (target default : Tree) : Tree :=
  node .defaulted [target, default]

@[match_pattern] abbrev declarator (target value : Tree) : Tree :=
  node .declarator [target, value]

@[match_pattern] abbrev block (body : List Tree) : Tree := node .block body

@[match_pattern] abbrev switch (e : Tree) (cases : List Tree) : Tree := node .switch (e :: cases)

@[match_pattern] abbrev switchCase (test : Tree) (body : List Tree) : Tree :=
  node .switchCase (test :: body)

end Tree

end Script

end Devirt

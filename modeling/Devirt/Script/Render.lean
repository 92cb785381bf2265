import Devirt.Decimal.Style
import Devirt.Script.Tree

/-
  Expressions written out again.

  Operators stand between blanks, unary ones included, strings stand between double
  quotes without any escapes but those of single halves of characters, and numbers are
  written in digits alone.  So the written form of an expression is close to its source
  and need not be a script itself.

  Statements, and the members of objects and classes, stand on lines of their own, each
  with the indentation of its depth.  The depth is passed on to what these constructs
  contain directly; in any other place it begins anew.

  Key definitions include:
    * `Tree.Layout`
    * `Tree.render`
-/

namespace Devirt

namespace Script

namespace Tree

/-
  The written form of a tree at a depth, without the indentation in front of it.
-/
abbrev Layout := Nat → String

def commas (ts : List String) : String :=
  ", ".intercalate ts

def indent (depth : Nat) : String :=
  String.join (List.replicate depth "    ")

/-
  Written forms joined by commas, at no depth.
-/
def flat (ts : List Layout) : String :=
  commas (ts.map (· 0))

------------------------------------------------------------
-- Texts
------------------------------------------------------------

def upperHex (n : Nat) : Char :=
  Char.ofNat (if n < 10 then 48 + n else 55 + n)

/-
  A character, or the escape of half of one.
-/
def writeCodePoint (n : Nat) : String :=
  if 0xD800 ≤ n && n < 0xE000 then
    "\\u" ++ String.ofList ([n / 4096, n / 256 % 16, n / 16 % 16, n % 16].map upperHex)
  else
    String.singleton (Char.ofNat n)

def writeUnits (s : Units) : String :=
  String.join (s.codePoints.map writeCodePoint)

/-
  The pieces of a template with the expressions between them.
-/
def renderTemplate : List String → List String → String
  | chunk :: chunks, e :: es => chunk ++ "$\x7b" ++ e ++ "\x7d" ++ renderTemplate chunks es
  | chunks, _ => String.join chunks

def cookedText (c : Chunk) : String := writeUnits (c.cooked.getD c.raw)

def rawText (c : Chunk) : String := writeUnits c.raw

def stepText (up : Bool) : String :=
  if up then "++" else "--"

def linkDot (optional : Bool) : String :=
  if optional then "?." else "."

def linkMark (optional : Bool) : String :=
  if optional then "?." else ""

------------------------------------------------------------
-- Patterns
------------------------------------------------------------

/-
  The parts of a pattern or the parameters of a function, with dots before the one that
  takes the rest.
-/
def withDots (dots : String) (parts : List Tree) (ts : List Layout) : List String :=
  (parts.zip ts).map fun (t, l) =>
    match t.label with
    | .rest => dots ++ l 0
    | _ => l 0

/-
  The elements of a list, in which a missing one is a comma of its own.
-/
def arrayText (items : List Tree) (ts : List Layout) : String :=
  let texts := (items.zip ts).map fun (t, l) =>
    match t.label with
    | .absent => ","
    | _ => l 0
  "[" ++ commas texts ++ "]"

/-
  The elements of a list pattern, each after a blank; a missing one at the end has a
  comma of its own.
-/
def arrayPatternText (items : List Tree) (ts : List Layout) : String :=
  let texts := (withDots "... " items ts).map (" " ++ ·)
  let tail := match items.getLast? with
    | none => ""
    | some (.node .absent _) => ", "
    | some _ => " "
  "[" ++ ",".intercalate texts ++ tail ++ "]"

def objectPatternText (items : List Tree) (ts : List Layout) : String :=
  if items.isEmpty then "\x7b \x7d"
  else "\x7b " ++ commas (withDots "... " items ts) ++ " \x7d"

------------------------------------------------------------
-- Statements
------------------------------------------------------------

def isEmptyStatement (t : Tree) : Bool :=
  match t.label with
  | .empty => true
  | _ => false

def isBlock (t : Tree) : Bool :=
  match t.label with
  | .block => true
  | _ => false

/-
  A tree as a statement: a declaration ends in a semicolon, which it does not have in the
  head of a loop.
-/
def closed (statement : Tree) (t : Layout) : Layout := fun depth =>
  match statement.label with
  | .declare _ => t depth ++ ";"
  | _ => t depth

/-
  The statements of a list, on lines of their own.  Semicolons after a statement are not
  statements themselves.
-/
def lines (statements : List Tree) (ts : List Layout) : Layout := fun depth =>
  let numbered := (statements.zip ts).zipIdx
  let kept := numbered.filter fun ((t, _), i) => i == 0 || !isEmptyStatement t
  String.join (kept.map fun ((t, l), _) => indent depth ++ closed t l depth ++ "\n")

/-
  Statements between braces.
-/
def braced (statements : List Tree) (ts : List Layout) : Layout := fun depth =>
  "\x7b\n" ++ lines statements ts (depth + 1) ++ indent depth ++ "\x7d"

/-
  The body of a function, which stays on its line if it is empty.
-/
def bodyText (statements : List Tree) (ts : List Layout) : Layout := fun depth =>
  if statements.isEmpty then "\x7b\x7d" else braced statements ts depth

/-
  A statement that is part of another; it is indented as if it stood on a line of its
  own, unless it is a block.
-/
def nested (statement : Tree) (t : Layout) : Layout := fun depth =>
  if isBlock statement then t depth else indent depth ++ closed statement t depth

def caseText (test : Tree) (t : Layout) (body : List Tree) (ts : List Layout) : Layout :=
  fun depth =>
    let head := match test.label with
      | .absent => "default:"
      | _ => "case " ++ t 0 ++ ":"
    indent depth ++ head ++ "\n" ++ lines body ts (depth + 1)

def jumpText (word : String) (label : Option String) : String :=
  match label with
  | some x => word ++ " " ++ x ++ ";"
  | none => word ++ ";"

/-
  A word with an expression after it, which may be missing.
-/
def withValue (word : String) (t : Layout) : String :=
  let text := t 0
  if text.isEmpty then word else word ++ " " ++ text

/-
  A statement in which others are nested.
-/
def compound (t : Tree) (parts : List Layout) : Layout := fun depth =>
  match t.label, t.parts, parts with
  | .ifElse, [_, a, b], [test, yes, no] =>
    let head := "if (" ++ test 0 ++ ") " ++ nested a yes depth
    match b.label with
    | .absent => head
    | _ => head ++ " else " ++ nested b no depth
  | .whileLoop, [_, a], [test, body] => "while (" ++ test 0 ++ ") " ++ nested a body depth
  | .doLoop, [a, _], [body, test] =>
    "do " ++ nested a body depth ++ " while (" ++ test 0 ++ ");"
  | .forLoop, [_, _, _, a], [first, test, next, body] =>
    "for (" ++ first 0 ++ "; " ++ test 0 ++ "; " ++ next 0 ++ ") " ++ nested a body depth
  | .forIn, [_, _, a], [target, e, body] =>
    "for (" ++ target 0 ++ " in " ++ e 0 ++ ") " ++ nested a body depth
  | .forOf isAwait, [_, _, a], [target, e, body] =>
    "for " ++ (if isAwait then "await " else "") ++ "(" ++ target 0 ++ " of " ++ e 0 ++ ") "
      ++ nested a body depth
  | .switch, _, e :: cases =>
    "switch (" ++ e 0 ++ ") \x7b\n" ++ String.join (cases.map (· (depth + 1)))
      ++ indent depth ++ "\x7d"
  | .switchCase, test :: body, t :: ts => caseText test t body ts depth
  | .withScope, [_, a], [e, body] =>
    "with (" ++ e 0 ++ ") \x7b" ++ closed a body 0 ++ "\x7d"
  | .labelled x, [a], [body] => x ++ ": " ++ closed a body 0
  | .attempt, _, [body, handler, finalizer] =>
    let last := finalizer depth
    indent depth ++ "try " ++ body depth ++ handler depth
      ++ (if last.isEmpty then "" else " finally " ++ last)
  | .handler, [binder, _], [t, body] =>
    let head := match binder.label with
      | .absent => ""
      | _ => "(" ++ t 0 ++ ")"
    " catch" ++ head ++ " " ++ body depth
  | _, _, _ => ""

------------------------------------------------------------
-- Functions
------------------------------------------------------------

/-
  What stands before the name of a method.
-/
def methodMark (info : FunctionInfo) : String :=
  match info.kind with
  | .getter => "get "
  | .setter => "set "
  | _ => (if info.isAsync then "async " else "") ++ (if info.isGenerator then "*" else "")

/-
  A function; of a method only what follows its name.
-/
def functionText (info : FunctionInfo) (params body : Layout) : Layout := fun depth =>
  let asyncText := if info.isAsync then "async " else ""
  let (head, arrow) := match info.kind, info.name with
    | .arrow, _ => (asyncText, "=> ")
    | .normal, some x =>
      (asyncText ++ "function" ++ (if info.isGenerator then "* " else " ") ++ x, "")
    | .normal, none => (asyncText ++ "function" ++ (if info.isGenerator then "*" else ""), "")
    | _, _ => ("", "")
  head ++ "(" ++ params 0 ++ ") " ++ arrow ++ body depth

/-
  A method with its name.
-/
def methodText (f : Tree) (k t : Layout) : Layout := fun depth =>
  match f.label with
  | .function info => methodMark info ++ k 0 ++ t depth
  | _ => k 0 ++ t depth

def staticMark (isStatic : Bool) : String :=
  if isStatic then "static " else ""

/-
  The members of a class, on lines of their own.
-/
def classText
    (name : Option String)
    (parts : List Tree)
    (ts : List Layout) :
    Layout := fun depth =>
  let named := match name with
    | some x => "class " ++ x
    | none => "class"
  match parts, ts with
  | parent :: constructor :: members, p :: c :: ms =>
    let head := match parent.label with
      | .absent => named
      | _ => named ++ " extends " ++ p 0
    let first := match constructor.label with
      | .absent => ""
      | _ => indent (depth + 1) ++ "constructor" ++ c (depth + 1) ++ "\n"
    let rest := ms.map fun m => indent (depth + 1) ++ m (depth + 1) ++ "\n"
    if first.isEmpty && members.isEmpty then head ++ " \x7b\x7d"
    else head ++ " \x7b\n" ++ first ++ String.join rest ++ "\x7d"
  | _, _ => named ++ " \x7b\x7d"

------------------------------------------------------------
-- Objects
------------------------------------------------------------

/-
  The members of an object, on lines of their own.
-/
def objectText (ts : List Layout) : Layout := fun depth =>
  "\x7b\n" ++ String.join (ts.map fun t => indent (depth + 1) ++ t (depth + 1) ++ ",\n")
    ++ indent depth ++ "\x7d"

def propertyText (value : Tree) (k v : Layout) : Layout := fun depth =>
  match value.label with
  | .object => k 0 ++ ": " ++ v depth
  | _ => k 0 ++ ": " ++ v 0

------------------------------------------------------------
-- Nodes
------------------------------------------------------------

/-
  A node written out with the written forms of its parts.
-/
def renderNode (t : Tree) (parts : List Layout) : Layout := fun depth =>
  match t.label, parts with
  | .absent, _ => ""
  | .this, _ => "this"
  | .null, _ => "null"
  | .bool b, _ => if b then "true" else "false"
  | .number x, _ => Decimal.plain.write x
  | .bigint n, _ => toString n ++ "n"
  | .string s, _ => "\"" ++ writeUnits s ++ "\""
  | .regexp source flags, _ => "/" ++ source ++ "/" ++ flags
  | .template chunks, es =>
    "`" ++ renderTemplate (chunks.map cookedText) (es.map (· 0)) ++ "`"
  | .tagged _ chunks, tag :: es =>
    tag 0 ++ "`" ++ renderTemplate (chunks.map rawText) (es.map (· 0)) ++ "`"
  | .name x, _ => x
  | .array, items => arrayText t.parts items
  | .arrayPattern, items => arrayPatternText t.parts items
  | .object, ps => objectText ps depth
  | .objectPattern, ps => objectPatternText t.parts ps
  | .function info, [params, body] => functionText info params body depth
  | .params, ps => commas (withDots "..." t.parts ps)
  | .body, ts => bodyText t.parts ts depth
  | .klass x _, ts => classText x t.parts ts depth
  | .unary op, [e] => op.text ++ " " ++ e 0
  | .update up before, [e] => if before then stepText up ++ e 0 else e 0 ++ stepText up
  | .binary op, [a, b] => a 0 ++ " " ++ op.text ++ " " ++ b 0
  | .logical op, [a, b] => a 0 ++ " " ++ op.text ++ " " ++ b 0
  | .conditional, [test, yes, no] => test 0 ++ " ? " ++ yes 0 ++ " : " ++ no 0
  | .assign op, [target, value] => target 0 ++ " " ++ op.text ++ " " ++ value 0
  | .comma, [a, b] => a 0 ++ " , " ++ b 0
  | .paren, [e] => "(" ++ e 0 ++ ")"
  | .spread, [e] => "..." ++ e 0
  | .rest, [e] => e 0
  | .select x, [e] => e 0 ++ "." ++ x
  | .index, [e, i] => e 0 ++ "[" ++ i 0 ++ "]"
  | .selectPrivate x, [e] => e 0 ++ ".#" ++ x
  | .selectSuper x, _ => "super." ++ x
  | .indexSuper, [i] => "super[" ++ i 0 ++ "]"
  | .testPrivate x, [e] => "#" ++ x ++ " in " ++ e 0
  | .call, f :: es => f 0 ++ "(" ++ flat es ++ ")"
  | .callSuper, es => "super(" ++ flat es ++ ")"
  | .callImport, [e] => "import(" ++ e 0 ++ ")"
  | .new, f :: es => "new " ++ f 0 ++ "(" ++ flat es ++ ")"
  | .chain, parts => String.join (parts.map (· 0))
  | .linkSelect optional x, _ => linkDot optional ++ x
  | .linkIndex optional, [i] => linkMark optional ++ "[" ++ i 0 ++ "]"
  | .linkPrivate optional x, _ => linkDot optional ++ "#" ++ x
  | .linkCall optional, es => linkMark optional ++ "(" ++ flat es ++ ")"
  | .yield, [e] => withValue "yield" e
  | .yieldAll, [e] => "yield* " ++ e 0
  | .await, [e] => "await " ++ e 0
  | .newTarget, _ => "new.target"
  | .keyText s, _ => writeUnits s
  | .keyComputed, [e] => "[" ++ e 0 ++ "]"
  | .keyPrivate x, _ => "#" ++ x
  | .property, [k, v] => propertyText (t.parts.getD 1 .absent) k v depth
  | .method, [k, f] => methodText (t.parts.getD 1 .absent) k f depth
  | .member isStatic, [k, f] =>
    staticMark isStatic ++ methodText (t.parts.getD 1 .absent) k f depth
  | .field isStatic, [k, v] =>
    let text := v depth
    staticMark isStatic ++ k 0 ++ (if text.isEmpty then ";" else " = " ++ text ++ ";")
  | .staticBlock, ts => "static " ++ bodyText t.parts ts depth
  | .propertyPattern isShort, [k, target] =>
    if isShort then target 0 else k 0 ++ " : " ++ target 0
  | .shorthand x, _ => x
  | .withDefault x, [e] => x ++ " = " ++ e 0
  | .defaulted, [target, value] => target 0 ++ " = " ++ value 0
  | .empty, _ => ";"
  | .debugger, _ => "debugger;"
  | .expression, [e] => e depth ++ ";"
  | .block, ts => braced t.parts ts depth
  | .declare kind, ds => kind.text ++ " " ++ flat ds
  | .declarator, [target, value] =>
    let text := value 0
    if text.isEmpty then target 0 else target 0 ++ " = " ++ text
  | .declareFunction, [f] => f depth
  | .declareClass, [c] => c depth
  | .continueTo label, _ => jumpText "continue" label
  | .breakFrom label, _ => jumpText "break" label
  | .giveBack, [e] => withValue "return" e ++ ";"
  | .raise, [e] => "throw " ++ e 0 ++ ";"
  | _, parts => compound t parts depth

/-
  An expression written out.
-/
def render (t : Tree) : String :=
  fold renderNode t 0

end Tree

end Script

end Devirt

import Devirt.Script.Parser.Function
import Devirt.Script.Regexp.Parser

/-
  The grammar of expressions.

  Key definitions include:
    * `Grammar.primary`, `Grammar.leftSide`, `Grammar.unary`
    * `Grammar.binary`, `Grammar.conditional`
    * `Grammar.assignment`
-/

namespace Devirt

namespace Script

namespace Grammar

open Parse

def isArrow (t : Tree) : Bool :=
  match t.label with
  | .function info => info.kind == .arrow
  | _ => false

------------------------------------------------------------
-- Lists of Expressions
------------------------------------------------------------

/-
  Arguments after their opening parenthesis, which may still become parameters.
-/
def coverArguments (parse : Goal → Parse Tree) : Parse (List Tree) :=
  within (fun c => { c with allowIn := true }) (loop
    (fun (done : List Tree) => do
      if ← eat ")" then
        return .inr done.reverse
      else
        let e ← if ← eat "..." then Tree.spread <$> parse .assignment else parse .assignment
        if ← eat ")" then
          return .inr (e :: done).reverse
        else
          expect ","
          return .inl (e :: done))
    [])

def arguments (parse : Goal → Parse Tree) : Parse (List Tree) :=
  settled (coverArguments parse)

/-
  The elements of an array after its opening bracket.  A comma after the spread of a
  list keeps the array from becoming a pattern.
-/
def arrayLiteral (parse : Goal → Parse Tree) : Parse Tree :=
  within (fun c => { c with allowIn := true }) (loop
    (fun (done : List Tree) => do
      if ← eat "]" then
        return .inr (.array done.reverse)
      else if ← eat "," then
        return .inl (.absent :: done)
      else
        let isSpread ← eat "..."
        let e ← parse .assignment
        let e := if isSpread then .spread e else e
        if ← eat "]" then
          return .inr (.array (e :: done).reverse)
        else
          expect ","
          if isSpread then
            modify fun s => { s with noPattern := true }
          return .inl (e :: done))
    [])

------------------------------------------------------------
-- Objects
------------------------------------------------------------

/-
  A member of an object after its modifiers.
-/
def propertyAfter
    (parse : Goal → Parse Tree)
    (m : Modifiers)
    (start : List Char) :
    Parse Tree := do
  let first ← token
  let key ← propertyKey parse
  if !m.areNone || (← isMark "(") then
    let f ← function parse (m.heading .method start)
    return .node .method [key, f]
  else if ← eat ":" then
    return .property key (← parse .assignment)
  else
    match first with
    | .word x _ =>
      let c ← context
      require (canName c x && !(c.noArguments && x == "arguments"))
      if ← eat "=" then
        let e ← value parse
        modify fun s => { s with needsPattern := true }
        return .node (.withDefault x) [e]
      else
        return .node (.shorthand x) []
    | _ => fail

def objectMember (parse : Goal → Parse Tree) : Parse Tree := do
  if ← eat "..." then
    return .spread (← parse .assignment)
  else
    let start := (← current).start
    propertyAfter parse (← modifiers) start

/-
  Whether a member sets the prototype of its object.
-/
def setsPrototype : Tree → Bool
  | .property (.node (.keyText s) _) _ => s == Units.ofString "__proto__"
  | _ => false

/-
  The members of an object after its opening brace.  Its prototype is set once at most,
  unless a value is assigned to it.
-/
def objectLiteral (parse : Goal → Parse Tree) : Parse Tree :=
  within (fun c => { c with allowIn := true }) (loop
    (fun (done : List Tree) => do
      let finish := fun (ps : List Tree) => do
        require ((ps.filter setsPrototype).length ≤ 1 || (← isMark "="))
        return Sum.inr (Tree.object ps.reverse)
      if ← eat "\x7d" then
        finish done
      else
        let p ← objectMember parse
        if ← eat "\x7d" then
          finish (p :: done)
        else
          expect ","
          return .inl (p :: done))
    [])

------------------------------------------------------------
-- Templates
------------------------------------------------------------

/-
  A template from its first piece on: its pieces and the expressions between them.
-/
def templateParts (parse : Goal → Parse Tree) : Parse (List Chunk × List Tree) :=
  loop
    (fun (state : List Chunk × List Tree) => do
      let (chunks, es) := state
      match ← token with
      | .template chunk true =>
        advance
        return .inr ((chunk :: chunks).reverse, es.reverse)
      | .template chunk false =>
        advance
        let e ← expression parse
        require (← isMark "\x7d")
        reread Lexeme.templateAfter?
        return .inl (chunk :: chunks, e :: es)
      | _ => fail)
    ([], [])

def template (parse : Goal → Parse Tree) : Parse Tree := do
  let (chunks, es) ← templateParts parse
  require (chunks.all fun c => c.cooked.isSome)
  return .node (.template chunks) es

------------------------------------------------------------
-- Arrow Functions and Parentheses
------------------------------------------------------------

/-
  Turns expressions into the parameters of an arrow function.
-/
def toParams (es : List Tree) : Parse (List Tree) := do
  let s ← get
  require !s.noPattern
  match es.mapM (Tree.toParam? s.context.isStrict) with
  | some ps =>
    require !(Tree.anySuspends ps)
    return ps
  | none => fail

/-
  Whether an arrow follows on the same line.
-/
def arrowFollows : Parse Bool := do
  return (← isMark "=>") && !(← newlineBefore)

/-
  What stands in parentheses after the opening one: expressions, with whether that can
  only be a list of parameters.
-/
def parenItems (parse : Goal → Parse Tree) : Parse (List Tree × Bool) :=
  within (fun c => { c with allowIn := true }) (loop
    (fun (done : List Tree) => do
      if ← eat ")" then
        return .inr (done.reverse, true)
      else if ← eat "..." then
        let target ← parse .binder
        expect ")"
        return .inr ((.node .rest [target] :: done).reverse, true)
      else
        let e ← parse .assignment
        if ← eat ")" then
          return .inr ((e :: done).reverse, false)
        else
          expect ","
          return .inl (e :: done))
    [])

/-
  Expressions joined by commas.
-/
def joinCommas : List Tree → Tree
  | [] => .absent
  | e :: es => es.foldl Tree.comma e

/-
  The parameters written in parentheses, the last of which may have been read as the
  rest already.
-/
def parenParams (es : List Tree) : Parse (List Tree) := do
  match es.getLast? with
  | some (.node .rest r) => return (← toParams es.dropLast) ++ [.node .rest r]
  | _ => toParams es

def parenthesized (parse : Goal → Parse Tree) : Parse Tree := do
  let s ← get
  let start := s.current.start
  advance
  set { ← get with needsPattern := false, noPattern := false }
  let (es, isParams) ← parenItems parse
  if (← arrowFollows) && s.arrowAt == s.taken then
    let h : Heading := { kind := .arrow, start }
    let ps ← parenParams es
    modify fun t => { t with needsPattern := s.needsPattern, noPattern := s.noPattern }
    arrowBody parse h ps
  else
    require !(isParams || es.isEmpty || (← get).needsPattern)
    modify fun t => { t with needsPattern := s.needsPattern, noPattern := s.noPattern }
    return .paren (joinCommas es)

------------------------------------------------------------
-- Primary Expressions
------------------------------------------------------------

/-
  Whether a function may have its name, given that its body may have made it strict.
-/
def goodName (f : Tree) : Bool :=
  match f.label with
  | .function info =>
    !(info.isStrict && (info.name == some "eval" || info.name == some "arguments"))
  | _ => true

/-
  A function expression from its first word on, after which its beginning is kept.
-/
def functionExpression (parse : Goal → Parse Tree) (isAsync : Bool) : Parse Tree := do
  let start := (← current).start
  if isAsync then
    advance
  expectWord "function"
  let isGenerator ← eat "*"
  let hasName := match ← token with
    | .word x _ => x != "let" || isAsync || isGenerator
    | _ => false
  let name ← if hasName then
      some <$> within (fun c => { c with inGenerator := isGenerator, inAsync := isAsync })
        bindingName
    else
      pure none
  let f ← function parse { kind := .normal, isAsync, isGenerator, name, start }
  require (goodName f)
  return f

/-
  Whether a function follows the word that makes it asynchronous.
-/
def asyncFunctionFollows : Parse Bool := do
  if ← isWord "async" then
    match ← peek? with
    | some l =>
      match l.token with
      | .word "function" false => return !l.newline
      | _ => return false
    | none => return false
  else
    return false

def regexpLiteral : Parse Tree := do
  reread Lexeme.regexp?
  match ← token with
  | .regexp source flags =>
    require (Regexp.isValid source flags)
    advance
    return .node (.regexp source flags) []
  | _ => fail

/-
  An expression that is a single word, if the word has a fixed meaning.
-/
def wordExpression (parse : Goal → Parse Tree) (x : String) : Parse Tree := do
  match x with
  | "this" => advance; return .node .this []
  | "null" => advance; return .node .null []
  | "true" => advance; return .node (.bool true) []
  | "false" => advance; return .node (.bool false) []
  | "function" => functionExpression parse false
  | "class" => klass parse false
  | _ =>
    if ← asyncFunctionFollows then
      functionExpression parse true
    else
      return .name (← identifier)

def primary (parse : Goal → Parse Tree) : Parse Tree := do
  match ← token with
  | .word x escaped => if escaped then return .name (← identifier) else wordExpression parse x
  | .number x isLegacy =>
    require !(isLegacy && (← isStrict))
    advance
    return .number x
  | .bigint n => advance; return .node (.bigint n) []
  | .string s isLegacy _ =>
    require !(isLegacy && (← isStrict))
    advance
    return .string s
  | .template _ _ => template parse
  | .mark "(" => parenthesized parse
  | .mark "[" => advance; arrayLiteral parse
  | .mark "\x7b" => advance; objectLiteral parse
  | .mark "/" => regexpLiteral
  | .mark "/=" => regexpLiteral
  | _ => fail

------------------------------------------------------------
-- Members and Calls
------------------------------------------------------------

/-
  Takes note of the use of a secret member.
-/
def useSecret (x : String) : Parse Unit := do
  require (← context).inClass
  modify fun s => { s with secretsUsed := x :: s.secretsUsed }

/-
  The word after a point.
-/
def memberName : Parse String := do
  match ← token with
  | .word x _ => advance; return x
  | _ => fail

/-
  A step that selects a member, if one follows.
-/
def memberStep (parse : Goal → Parse Tree) (e : Tree) : Parse (Option Tree) := do
  if ← eat "." then
    match ← token with
    | .secret x =>
      advance
      useSecret x
      return some (.node (.selectPrivate x) [e])
    | _ => return some (.select e (← memberName))
  else if ← eat "[" then
    let i ← expression parse
    expect "]"
    return some (.index e i)
  else
    match ← token with
    | .template _ _ =>
      let site := (← get).afterLast.length
      let (chunks, es) ← templateParts parse
      return some (.node (.tagged site chunks) (e :: es))
    | _ => return none

/-
  A link of an optional chain, if one follows.
-/
def chainLink (parse : Goal → Parse Tree) (optional : Bool) : Parse (Option Tree) := do
  if ← eat "[" then
    let i ← expression parse
    expect "]"
    return some (.node (.linkIndex optional) [i])
  else if ← eat "(" then
    return some (.node (.linkCall optional) (← arguments parse))
  else if optional then
    match ← token with
    | .secret x =>
      advance
      useSecret x
      return some (.node (.linkPrivate true x) [])
    | .template _ _ => fail
    | _ => return some (.node (.linkSelect true (← memberName)) [])
  else if ← eat "." then
    match ← token with
    | .secret x =>
      advance
      useSecret x
      return some (.node (.linkPrivate false x) [])
    | _ => return some (.node (.linkSelect false (← memberName)) [])
  else
    match ← token with
    | .template _ _ => fail
    | _ => return none

/-
  The links of an optional chain.
-/
def chainLinks (parse : Goal → Parse Tree) : Parse (List Tree) :=
  loop
    (fun (done : List Tree) => do
      let optional ← eat "?."
      match ← chainLink parse optional with
      | some link => return .inl (link :: done)
      | none => return .inr done.reverse)
    []

/-
  Members, calls and chains after an expression.
-/
def afterPrimary (parse : Goal → Parse Tree) (first : Tree) : Parse Tree :=
  loop
    (fun e => do
      if ← isMark "?." then
        return .inr (.chain e (← chainLinks parse))
      else if ← eat "(" then
        return .inl (.call e (← arguments parse))
      else
        match ← memberStep parse e with
        | some next => return .inl next
        | none => return .inr e)
    first

/-
  Members after an expression.
-/
def membersAfter (parse : Goal → Parse Tree) (first : Tree) : Parse Tree :=
  loop
    (fun e => do
      match ← memberStep parse e with
      | some next => return .inl next
      | none => return .inr e)
    first

/-
  A member of the parent object, or the call of the parent constructor.
-/
def superExpression (parse : Goal → Parse Tree) : Parse Tree := do
  advance
  let c ← context
  if ← eat "." then
    require c.allowSuper
    return .node (.selectSuper (← memberName)) []
  else if ← eat "[" then
    require c.allowSuper
    let i ← expression parse
    expect "]"
    return .node .indexSuper [i]
  else
    require c.allowSuperCall
    expect "("
    return .node .callSuper (← arguments parse)

def importCall (parse : Goal → Parse Tree) : Parse Tree := do
  advance
  expect "("
  let e ← value parse
  expect ")"
  return .node .callImport [e]

def isSuperCall (t : Tree) : Bool :=
  match t.label with
  | .callSuper => true
  | _ => false

/-
  The creation of an object, from its first word on.  Arguments belong to the innermost
  creation that has none yet.
-/
def creation (parse : Goal → Parse Tree) : Parse Tree := do
  expectWord "new"
  if ← eat "." then
    expectWord "target"
    require (← context).allowNewTarget
    return .node .newTarget []
  else
    let callee ←
      if ← isWord "new" then parse .creation
      else if ← isWord "super" then superExpression parse
      else primary parse
    require !(isSuperCall callee)
    let callee ← membersAfter parse callee
    let es ← if ← eat "(" then arguments parse else pure []
    return .new callee es

/-
  An expression that can be called.  Only a chain can follow the call of the parent
  constructor.
-/
def leftSide (parse : Goal → Parse Tree) : Parse Tree := do
  let first ←
    if ← isWord "new" then parse .creation
    else if ← isWord "super" then superExpression parse
    else if ← isWord "import" then importCall parse
    else primary parse
  if isArrow first || (isSuperCall first && !(← isMark "?.")) then
    return first
  else
    afterPrimary parse first

------------------------------------------------------------
-- Unary Operators
------------------------------------------------------------

def simpleTarget (t : Tree) : Parse Tree := do
  match Tree.simpleTarget? (← context) t with
  | some target => return target
  | none => fail

/-
  Counting up or down, before or after the target, or a plain operand.
-/
def updateExpression (parse : Goal → Parse Tree) : Parse Tree := do
  if ← eat "++" then
    return .update true true (← simpleTarget (← parse .unary))
  else if ← eat "--" then
    return .update false true (← simpleTarget (← parse .unary))
  else
    let e ← leftSide parse
    if isArrow e || (← newlineBefore) then
      return e
    else if ← eat "++" then
      return .update true false (← simpleTarget e)
    else if ← eat "--" then
      return .update false false (← simpleTarget e)
    else
      return e

def unaryOp? : Token → Option UnaryOp
  | .mark "-" => some .negate
  | .mark "+" => some .plus
  | .mark "!" => some .not
  | .mark "~" => some .complement
  | .word "typeof" false => some .typeOf
  | .word "void" false => some .void
  | .word "delete" false => some .delete
  | _ => none

/-
  Whether an operand may be deleted: a name may not in strict code, and a secret member
  never.
-/
def canDelete (isStrict : Bool) (e : Tree) : Bool :=
  match e.inner.label with
  | .name _ => !isStrict
  | .selectPrivate _ => false
  | _ => true

def unary (parse : Goal → Parse Tree) : Parse Tree := do
  match unaryOp? (← token) with
  | some op =>
    advance
    let e ← parse .unary
    require (op != .delete || canDelete (← isStrict) e)
    return .unary op e
  | none =>
    if (← context).inAsync && (← isWord "await") then
      require !(← context).inParams
      advance
      return .node .await [← parse .unary]
    else
      updateExpression parse

/-
  A power.  Its base is no unary operator, unless it stands in parentheses.
-/
def exponent (parse : Goal → Parse Tree) : Parse Tree := do
  let base ← unary parse
  if !isArrow base && (← isMark "**") then
    require (match base.label with
      | .unary _ => false
      | .await => false
      | _ => true)
    advance
    return .binary .exp base (← parse .exponent)
  else
    return base

------------------------------------------------------------
-- Binary Operators
------------------------------------------------------------

/-
  An operator with two operands.
-/
inductive Operator where
  | binary (op : BinaryOp)
  | logical (op : LogicalOp)
  deriving DecidableEq, Repr

/-
  The operators of each level, the loosest level first.
-/
def levels : List (List (String × Operator)) :=
  [ [("||", .logical .or), ("??", .logical .coalesce)]
  , [("&&", .logical .and)]
  , [("|", .binary .bitOr)]
  , [("^", .binary .bitXor)]
  , [("&", .binary .bitAnd)]
  , [ ("==", .binary .equal), ("!=", .binary .notEqual), ("===", .binary .same)
    , ("!==", .binary .notSame) ]
  , [ ("<", .binary .less), ("<=", .binary .lessEqual), (">", .binary .greater)
    , (">=", .binary .greaterEqual), ("instanceof", .binary .instanceOf)
    , ("in", .binary .member) ]
  , [ ("<<", .binary .shiftLeft), (">>", .binary .shiftRight)
    , (">>>", .binary .shiftRightZero) ]
  , [("+", .binary .add), ("-", .binary .sub)]
  , [("*", .binary .mul), ("/", .binary .div), ("%", .binary .rem)] ]

/-
  The operator of a level that the current token is.
-/
def operatorOf (level : List (String × Operator)) : Parse (Option Operator) := do
  match ← token with
  | .mark m => return (level.find? fun o => o.1 == m).map (·.2)
  | .word "instanceof" false => return (level.find? fun o => o.1 == "instanceof").map (·.2)
  | .word "in" false =>
    if (← context).allowIn then
      return (level.find? fun o => o.1 == "in").map (·.2)
    else
      return none
  | _ => return none

def isLogical (ops : List LogicalOp) (t : Tree) : Bool :=
  match t.label with
  | .logical op => ops.contains op
  | _ => false

/-
  Two operands with an operator between them.  The choice of a default does not mix with
  the other logical operators.
-/
def combine (op : Operator) (a b : Tree) : Parse Tree := do
  match op with
  | .binary op => return .binary op a b
  | .logical .coalesce =>
    require !(isLogical [.and, .or] a || isLogical [.and, .or] b)
    return .logical .coalesce a b
  | .logical op =>
    require !(isLogical [.coalesce] a || isLogical [.coalesce] b)
    return .logical op a b

/-
  A test for a secret member, if one follows.
-/
def secretTest (operand : Parse Tree) : Parse (Option Tree) := do
  match ← token with
  | .secret x =>
    advance
    useSecret x
    require (← context).allowIn
    expectWord "in"
    return some (.node (.testPrivate x) [← operand])
  | _ => return none

/-
  Operands joined by the operators of some levels, from left to right.
-/
def binaryFrom (parse : Goal → Parse Tree) : List (List (String × Operator)) → Parse Tree
  | [] => exponent parse
  | level :: tighter => do
    let operand := binaryFrom parse tighter
    let isRelational := level.any fun o => o.1 == "in"
    let first ←
      if isRelational then
        match ← secretTest operand with
        | some e => pure e
        | none => operand
      else
        operand
    if isArrow first then
      return first
    else
      loop
        (fun e => do
          match ← operatorOf level with
          | some op =>
            advance
            return .inl (← combine op e (← operand))
          | none => return .inr e)
        first

def binary (parse : Goal → Parse Tree) : Parse Tree :=
  binaryFrom parse levels

def conditional (parse : Goal → Parse Tree) : Parse Tree := do
  let test ← binary parse
  if isArrow test then
    return test
  else if ← eat "?" then
    let yes ← value parse
    expect ":"
    let no ← settled (parse .assignment)
    return .conditional test yes no
  else
    return test

------------------------------------------------------------
-- Assignment
------------------------------------------------------------

def assignOp? : Token → Option AssignOp
  | .mark "=" => some .plain
  | .mark "+=" => some (.compute .add)
  | .mark "-=" => some (.compute .sub)
  | .mark "*=" => some (.compute .mul)
  | .mark "/=" => some (.compute .div)
  | .mark "%=" => some (.compute .rem)
  | .mark "**=" => some (.compute .exp)
  | .mark "<<=" => some (.compute .shiftLeft)
  | .mark ">>=" => some (.compute .shiftRight)
  | .mark ">>>=" => some (.compute .shiftRightZero)
  | .mark "&=" => some (.compute .bitAnd)
  | .mark "|=" => some (.compute .bitOr)
  | .mark "^=" => some (.compute .bitXor)
  | .mark "&&=" => some (.logical .and)
  | .mark "||=" => some (.logical .or)
  | .mark "??=" => some (.logical .coalesce)
  | _ => none

/-
  The left side of an assignment as a target.
-/
def target (op : AssignOp) (t : Tree) : Parse Tree := do
  let s ← get
  if op == .plain && t.isLiteral then
    require !s.noPattern
    match Tree.toPattern? s.context.isStrict t with
    | some p =>
      set { s with needsPattern := false }
      return p
    | none => fail
  else
    require !s.needsPattern
    simpleTarget t

def yieldExpression (parse : Goal → Parse Tree) : Parse Tree := do
  require !(← context).inParams
  advance
  if ← newlineBefore then
    return .node .yield [.absent]
  else if ← eat "*" then
    return .node .yieldAll [← settled (parse .assignment)]
  else
    let ends ← match ← token with
      | .mark m => pure ([")", "]", "\x7d", ",", ";", ":"].contains m)
      | .word "in" _ => pure true
      | .word "of" _ => pure true
      | .stop => pure true
      | _ => pure false
    if ends then
      return .node .yield [.absent]
    else
      return .node .yield [← settled (parse .assignment)]

/-
  An arrow function with a single name as its parameter, if one follows.
-/
def nameArrow (parse : Goal → Parse Tree) : Parse (Option Tree) := do
  let start := (← current).start
  let isArrowNext ← match ← token with
    | .word x _ =>
      match ← peek? with
      | some l =>
        match l.token with
        | .mark "=>" => pure (isLabelWord x && !l.newline)
        | _ => pure false
      | none => pure false
    | _ => pure false
  if isArrowNext then
    let x ← bindingName
    return some (← arrowBody parse { kind := .arrow, start } [.name x])
  else
    return none

/-
  Whether an asynchronous arrow function begins here.  The word that announces it is
  followed, on the same line, by its parameter or an opening parenthesis; it is never the
  end of a script.
-/
def asyncArrowFollows : Parse Bool := do
  match ← token with
  | .word "async" _ =>
    match ← peek? with
    | some l =>
      match l.token with
      | .stop => fail
      | .mark "(" => return !l.newline
      | .word x _ => return isLabelWord x && !l.newline
      | _ => return false
    | none => fail
  | _ => return false

def asyncArrow (parse : Goal → Parse Tree) : Parse Tree := do
  let start := (← current).start
  expectWord "async"
  let h : Heading := { kind := .arrow, isAsync := true, start }
  let ps ← within (fun c => { h.context c with inParams := true })
    (inScope { isFunction := true } do
      if ← isMark "(" then params parse else return [.name (← bindingName)])
  arrowBody parse h ps

/-
  An assignment, or an expression that is none.
-/
def assignmentOrLess (parse : Goal → Parse Tree) : Parse Tree := do
  let before ← get
  set { before with needsPattern := false, noPattern := false, arrowAt := before.taken }
  let left ← conditional parse
  if isArrow left then
    modify fun s =>
      { s with needsPattern := before.needsPattern, noPattern := before.noPattern }
    return left
  else
    match assignOp? (← token) with
    | some op =>
      let t ← target op left
      advance
      let v ← settled (parse .assignment)
      modify fun s =>
        { s with needsPattern := before.needsPattern, noPattern := before.noPattern }
      return .assign op t v
    | none =>
      require (left.isLiteral || !(← get).needsPattern)
      modify fun s =>
        { s with
          needsPattern := s.needsPattern || before.needsPattern
          noPattern := s.noPattern || before.noPattern }
      return left

def assignment (parse : Goal → Parse Tree) : Parse Tree := do
  if (← context).inGenerator && (← isWord "yield") then
    yieldExpression parse
  else if ← asyncArrowFollows then
    asyncArrow parse
  else
    match ← nameArrow parse with
    | some f => return f
    | none => assignmentOrLess parse

end Grammar

end Script

end Devirt

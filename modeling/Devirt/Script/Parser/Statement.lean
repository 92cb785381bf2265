import Devirt.Script.Parser.Expression

/-
  The grammar of statements.

  Key definitions include:
    * `Grammar.item`, `Grammar.statement`
    * `Grammar.forStatement`
-/

namespace Devirt

namespace Script

namespace Grammar

open Parse

------------------------------------------------------------
-- Blocks and Declarations
------------------------------------------------------------

/-
  The statements of a block, with the braces around them.
-/
def blockItems (parse : Goal → Parse Tree) (scope : Scope) : Parse (List Tree) := do
  expect "\x7b"
  inScope scope (itemsUntil "\x7d" (parse .item))

def block (parse : Goal → Parse Tree) : Parse Tree :=
  Tree.block <$> blockItems parse { isFunction := false }

/-
  Declares the names of a pattern.
-/
def declareNames (kind : Declaration) (t : Tree) : Parse Unit := do
  let names := t.boundNames
  match kind with
  | .hoisted => names.forM declareHoisted
  | _ =>
    require !(names.contains "let")
    names.forM declareLocal

/-
  A declared name or pattern and its value.
-/
def declarator (parse : Goal → Parse Tree) (kind : Declaration) : Parse Tree := do
  let t ← parse .binder
  declareNames kind t
  let v ← if ← eat "=" then settled (parse .assignment) else pure .absent
  return .declarator t v

def hasValue : Tree → Bool
  | .declarator _ (.node .absent _) => false
  | _ => true

/-
  Only constants have to have a value.
-/
def goodDeclarator (kind : Declaration) (d : Tree) : Bool :=
  kind != .constant || hasValue d

/-
  What is declared after the word that announces it.  A list of local names ends where
  its line does, and none of them is declared twice.
-/
def declarators (parse : Goal → Parse Tree) (kind : Declaration) : Parse (List Tree) := do
  let first ← declarator parse kind
  let ds ← loop
    (fun done => do
      if kind != .hoisted && (← newlineBefore) then
        return .inr done.reverse
      else if ← eat "," then
        return .inl ((← declarator parse kind) :: done)
      else
        return .inr done.reverse)
    [first]
  require (kind == .hoisted || !hasRepeats (Tree.boundNamesOf ds))
  return ds

/-
  A declaration after the word that announces it.
-/
def declaration (parse : Goal → Parse Tree) (kind : Declaration) : Parse Tree := do
  advance
  let ds ← declarators parse kind
  require (ds.all (goodDeclarator kind))
  endStatement
  return .node (.declare kind) ds

/-
  Whether the word `let` begins a declaration here.
-/
def letDeclares : Parse Bool := do
  if ← isWord "let" then
    match ← peek? with
    | some l =>
      match l.token with
      | .mark m => return m == "[" || m == "\x7b"
      | .word x _ => return x != "of" && !reservedWords.contains x
      | _ => return false
    | none => return false
  else
    return false

def declarationKind? : Parse (Option Declaration) := do
  if ← isWord "var" then return some .hoisted
  else if ← isWord "const" then return some .constant
  else if ← letDeclares then return some .local
  else return none

/-
  A function that is declared, from its first word on.
-/
def functionDeclaration (parse : Goal → Parse Tree) (isAsync : Bool) : Parse Tree := do
  let start := (← current).start
  if isAsync then
    advance
  expectWord "function"
  let isGenerator ← eat "*"
  let x ← bindingName
  declareFunction x (!isAsync && !isGenerator)
  let f ← function parse { kind := .normal, isAsync, isGenerator, name := some x, start }
  return .node .declareFunction [f]

def classDeclaration (parse : Goal → Parse Tree) : Parse Tree := do
  let c ← klass parse true
  match c.label with
  | .klass (some x) _ => declareLocal x
  | _ => fail
  return .node .declareClass [c]

------------------------------------------------------------
-- Loops
------------------------------------------------------------

/-
  A statement that is repeated.
-/
def loopBody (parse : Goal → Parse Tree) : Parse Tree :=
  within (fun c => { c with inLoop := true }) (parse .statement)

def condition (parse : Goal → Parse Tree) : Parse Tree := do
  expect "("
  let e ← expression parse
  expect ")"
  return e

def whileStatement (parse : Goal → Parse Tree) : Parse Tree := do
  advance
  let test ← condition parse
  return .node .whileLoop [test, ← loopBody parse]

def doStatement (parse : Goal → Parse Tree) : Parse Tree := do
  advance
  let body ← loopBody parse
  expectWord "while"
  let test ← condition parse
  let _ ← eat ";"
  return .node .doLoop [body, test]

/-
  An expression that may be left out before a mark.
-/
def optionalUntil (parse : Goal → Parse Tree) (m : String) : Parse Tree := do
  if ← eat m then
    return .absent
  else
    let e ← expression parse
    expect m
    return e

/-
  The rest of a counting loop after its first part.
-/
def countingLoop (parse : Goal → Parse Tree) (first : Tree) : Parse Tree := do
  expect ";"
  let test ← optionalUntil parse ";"
  let next ← optionalUntil parse ")"
  return .node .forLoop [first, test, next, ← loopBody parse]

/-
  The rest of a loop over the members or values of something.
-/
def memberLoop (parse : Goal → Parse Tree) (isAwait : Bool) (target : Tree) : Parse Tree := do
  if ← eatWord "of" then
    let e ← value parse
    expect ")"
    return .node (.forOf isAwait) [target, e, ← loopBody parse]
  else
    require !isAwait
    expectWord "in"
    let e ← expression parse
    expect ")"
    return .node .forIn [target, e, ← loopBody parse]

/-
  Whether the head of a loop goes on as one over members or values.
-/
def overFollows : Parse Bool := do
  return (← isWord "of") || (← isWord "in")

/-
  A loop whose head begins with a declaration.
-/
def declaringLoop
    (parse : Goal → Parse Tree)
    (isAwait : Bool)
    (kind : Declaration) :
    Parse Tree := do
  advance
  let ds ← within (fun c => { c with allowIn := false }) (declarators parse kind)
  match ds with
  | [d] =>
    if !hasValue d && (← overFollows) then
      return ← memberLoop parse isAwait (.node (.declare kind) [d])
  | _ => pure ()
  require (!isAwait && ds.all (goodDeclarator kind))
  countingLoop parse (.node (.declare kind) ds)

/-
  A loop whose head begins with an expression.
-/
def expressionLoop (parse : Goal → Parse Tree) (isAwait : Bool) : Parse Tree := do
  let s ← get
  let startsWithAsync ← isWord "async"
  set { s with needsPattern := false, noPattern := false, arrowAt := s.taken }
  let e ← within (fun c => { c with allowIn := false }) (coverExpression parse)
  let restore : Parse Unit :=
    modify fun t => { t with needsPattern := s.needsPattern, noPattern := s.noPattern }
  if ← overFollows then
    require !((← isWord "of") && startsWithAsync && !isAwait && e.isName)
    let t ← target .plain e.inner
    restore
    memberLoop parse isAwait t
  else
    require !((← get).needsPattern || isAwait)
    restore
    countingLoop parse e

def forHead (parse : Goal → Parse Tree) (isAwait : Bool) : Parse Tree := do
  if ← isMark ";" then
    require !isAwait
    countingLoop parse .absent
  else
    match ← declarationKind? with
    | some kind => declaringLoop parse isAwait kind
    | none => expressionLoop parse isAwait

def forStatement (parse : Goal → Parse Tree) : Parse Tree := do
  advance
  let isAwait ← if (← context).inAsync then eatWord "await" else pure false
  expect "("
  inScope { isFunction := false } (forHead parse isAwait)

------------------------------------------------------------
-- Choices
------------------------------------------------------------

def ifStatement (parse : Goal → Parse Tree) : Parse Tree := do
  advance
  let test ← condition parse
  let yes ← parse .statement
  let no ← if ← eatWord "else" then parse .statement else pure .absent
  return .node .ifElse [test, yes, no]

/-
  The statements of a case.
-/
def caseBody (parse : Goal → Parse Tree) : Parse (List Tree) :=
  loop
    (fun done => do
      if (← isWord "case") || (← isWord "default") || (← isMark "\x7d") then
        return .inr done.reverse
      else
        return .inl ((← parse .item) :: done))
    []

/-
  The cases of a switch statement up to its closing brace; there is at most one default.
-/
def cases (parse : Goal → Parse Tree) : Parse (List Tree) :=
  loop
    (fun (state : List Tree × Bool) => do
      let (done, hasDefault) := state
      if ← eat "\x7d" then
        return .inr done.reverse
      else if ← eatWord "case" then
        let test ← expression parse
        expect ":"
        return .inl (.switchCase test (← caseBody parse) :: done, hasDefault)
      else
        expectWord "default"
        require !hasDefault
        expect ":"
        return .inl (.switchCase .absent (← caseBody parse) :: done, true))
    ([], false)

def switchStatement (parse : Goal → Parse Tree) : Parse Tree := do
  advance
  let e ← condition parse
  expect "\x7b"
  let cs ← within (fun c => { c with inSwitch := true })
    (inScope { isFunction := false } (cases parse))
  return .switch e cs

------------------------------------------------------------
-- Jumps
------------------------------------------------------------

/-
  The label after a jump, if it stands on the same line.
-/
def jumpLabel : Parse (Option String) := do
  if ← newlineBefore then
    return none
  else
    match ← token with
    | .word _ _ => some <$> identifier
    | _ => return none

def breakStatement : Parse Tree := do
  advance
  let label ← jumpLabel
  let c ← context
  require (match label with
    | some x => c.labels.any fun l => l.1 == x
    | none => c.inLoop || c.inSwitch)
  endStatement
  return .node (.breakFrom label) []

def continueStatement : Parse Tree := do
  advance
  let label ← jumpLabel
  let c ← context
  require (c.inLoop && (match label with
    | some x => c.labels.any fun l => l.1 == x && l.2
    | none => true))
  endStatement
  return .node (.continueTo label) []

/-
  Whether a statement ends here.
-/
def statementEnds : Parse Bool := do
  match ← token with
  | .mark m => return m == ";" || m == "\x7d" || (← newlineBefore)
  | .stop => return true
  | _ => newlineBefore

def returnStatement (parse : Goal → Parse Tree) : Parse Tree := do
  require (← context).inFunction
  advance
  let e ← if ← statementEnds then pure .absent else expression parse
  endStatement
  return .node .giveBack [e]

def throwStatement (parse : Goal → Parse Tree) : Parse Tree := do
  advance
  require !(← newlineBefore)
  let e ← expression parse
  endStatement
  return .node .raise [e]

------------------------------------------------------------
-- Other Statements
------------------------------------------------------------

/-
  The handler of errors after the word that announces it.
-/
def handler (parse : Goal → Parse Tree) : Parse Tree := do
  if ← eat "(" then
    let t ← parse .binder
    expect ")"
    let names := t.boundNames
    require !hasRepeats names
    let scope : Scope :=
      if t.isPattern then { isFunction := false, locals := names }
      else { isFunction := false, params := names }
    return .node .handler [t, .block (← blockItems parse scope)]
  else
    return .node .handler [.absent, ← block parse]

def tryStatement (parse : Goal → Parse Tree) : Parse Tree := do
  advance
  let body ← block parse
  let hasHandler ← eatWord "catch"
  let h ← if hasHandler then handler parse else pure .absent
  let hasFinalizer ← eatWord "finally"
  let f ← if hasFinalizer then block parse else pure .absent
  require (hasHandler || hasFinalizer)
  return .node .attempt [body, h, f]

def withStatement (parse : Goal → Parse Tree) : Parse Tree := do
  require !(← isStrict)
  advance
  let e ← condition parse
  return .node .withScope [e, ← parse .statement]

/-
  Whether a loop follows, perhaps after more labels.
-/
def loopFollows : Nat → List Char → Bool
  | 0, _ => false
  | fuel + 1, cs =>
    match Lexeme.next? cs with
    | some l =>
      match l.token with
      | .word x _ =>
        if ["for", "while", "do"].contains x then
          true
        else
          match Lexeme.next? l.rest with
          | some after =>
            match after.token with
            | .mark ":" => loopFollows fuel after.rest
            | _ => false
          | none => false
      | _ => false
    | none => false

/-
  A statement with a label.
-/
def labelledStatement (parse : Goal → Parse Tree) : Parse Tree := do
  let x ← identifier
  let c ← context
  require !(c.labels.any fun l => l.1 == x)
  let rest := (← current).rest
  let isLoop := loopFollows rest.length rest
  expect ":"
  let body ← within (fun c => { c with labels := (x, isLoop) :: c.labels })
    (parse .statement)
  return .node (.labelled x) [body]

/-
  Whether a label begins here.
-/
def labelFollows : Parse Bool := do
  match ← token with
  | .word x _ =>
    match ← peek? with
    | some l =>
      match l.token with
      | .mark ":" => return isLabelWord x
      | _ => return false
    | none => return false
  | _ => return false

/-
  Whether what follows cannot be an expression as a statement, because it looks like a
  declaration.  The word `let` is not the end of a script either.
-/
def looksDeclared : Parse Bool := do
  let next := (← peek?).map Lexeme.token
  if (← isWord "function") || (← isWord "class") then
    return true
  else if ← isWord "async" then
    match next with
    | some (.word x _) => return x == "function"
    | _ => return false
  else if ← isWord "let" then
    match next with
    | some (.mark m) => return m == "["
    | some .stop => return true
    | _ => return false
  else
    return false

def expressionStatement (parse : Goal → Parse Tree) : Parse Tree := do
  require !(← looksDeclared)
  let e ← expression parse
  endStatement
  return .node .expression [e]

/-
  A statement that begins with a word of fixed meaning.
-/
def wordStatement (parse : Goal → Parse Tree) (x : String) : Parse Tree := do
  match x with
  | "if" => ifStatement parse
  | "for" => forStatement parse
  | "while" => whileStatement parse
  | "do" => doStatement parse
  | "continue" => continueStatement
  | "break" => breakStatement
  | "return" => returnStatement parse
  | "with" => withStatement parse
  | "switch" => switchStatement parse
  | "throw" => throwStatement parse
  | "try" => tryStatement parse
  | "var" => declaration parse .hoisted
  | "debugger" =>
    advance
    endStatement
    return .node .debugger []
  | _ =>
    if ← labelFollows then labelledStatement parse else expressionStatement parse

/-
  A statement that is no declaration.
-/
def statement (parse : Goal → Parse Tree) : Parse Tree := do
  match ← token with
  | .mark "\x7b" => block parse
  | .mark ";" => advance; return .node .empty []
  | .word x escaped => if escaped then wordStatement parse "" else wordStatement parse x
  | _ => expressionStatement parse

/-
  A statement or declaration of a list.
-/
def item (parse : Goal → Parse Tree) : Parse Tree := do
  if ← isWord "function" then functionDeclaration parse false
  else if ← asyncFunctionFollows then functionDeclaration parse true
  else if ← isWord "class" then classDeclaration parse
  else if ← isWord "const" then declaration parse .constant
  else if ← letDeclares then declaration parse .local
  else statement parse

end Grammar

end Script

end Devirt

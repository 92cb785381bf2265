import Devirt.Realm.Closure

/-
  The effects of statements.

  Key definitions include:
    * `executeTree`
    * `executeLoop`, `executeSwitch`, `executeTry`
-/

namespace Devirt

namespace Realm

open Script (Tree Declaration)

------------------------------------------------------------
-- Completions
------------------------------------------------------------

/-
  The value a statement leaves, or the one from before.
-/
def orElse (new old : Option Value) : Option Value :=
  match new with
  | some v => some v
  | none => old

/-
  A completion that leaves a value behind in any case.
-/
def Completion.settle (c : Completion) (v : Value) : Completion :=
  match c with
  | .normal none => .normal (some v)
  | .broken l none => .broken l (some v)
  | .continued l none => .continued l (some v)
  | c => c

/-
  What a loop does after its body: it goes on with a value, or ends.
-/
def afterBody (labels : List String) (old : Option Value) : Completion → Option Value ⊕ Completion
  | .normal v => .inl (orElse v old)
  | .continued none v => .inl (orElse v old)
  | .continued (some l) v =>
    if labels.contains l then .inl (orElse v old) else .inr (.continued (some l) (orElse v old))
  | .broken none v => .inr (.normal (orElse v old))
  | .broken (some l) v =>
    if labels.contains l then .inr (.normal (orElse v old))
    else .inr (.broken (some l) (orElse v old))
  | .returned v => .inr (.returned v)

------------------------------------------------------------
-- Declarations
------------------------------------------------------------

/-
  The names bound by a hoisted declaration are assigned like any others.
-/
def hoistedSink (m : Machine) : Sink := fun env t => do
  match t with
  | .name x => return assignPlace m env x (← resolve m env x)
  | _ => return fun _ => pure ()

def executeDeclarator (m : Machine) (env : Env) (kind : Declaration) (t : Tree) : Run Unit := do
  match t with
  | .declarator target value =>
    let sink := if kind == .hoisted then hoistedSink m else declareSink
    match target, value with
    | target, .node .absent _ =>
      if kind != .hoisted || target.isPattern then
        bindPattern m env sink target .undefined
    | .name x, e =>
      let put ← sink env (.name x)
      put (← evaluateAs m env (.ofString x) e)
    | target, e => bindPattern m env sink target (← m.evaluate env e)
  | _ => pure ()

/-
  A scope for the statements of a block.
-/
def enterBlock (env : Env) (statements : List Tree) : Run Env := do
  let functions := Tree.declaredFunctions statements
  let functionCells : List (String × Cell) :=
    (functions.map (·.1)).eraseDups.map fun x => (x, { value := some .undefined })
  let inner ← enterScope env (localCells statements ++ functionCells)
  for (x, f) in functions do
    bindFirst inner x (← declaredClosure inner x f)
  return inner

def executeBlock (m : Machine) (env : Env) (statements : List Tree) : Run Completion := do
  executeList m (← enterBlock env statements) statements none

------------------------------------------------------------
-- Loops
------------------------------------------------------------

def executeWhile (m : Machine) (env : Env) (labels : List String) (test body : Tree) :
    Run Completion :=
  repeatRun
    (fun (v : Option Value) => do
      countRound
      if (← m.evaluate env test).toBool then
        return afterBody labels v (← m.execute env body)
      else
        return .inr (.normal v))
    (some .undefined)

def executeDo (m : Machine) (env : Env) (labels : List String) (body test : Tree) :
    Run Completion :=
  repeatRun
    (fun (v : Option Value) => do
      match afterBody labels v (← m.execute env body) with
      | .inl v =>
        countRound
        if (← m.evaluate env test).toBool then return .inl v else return .inr (.normal v)
      | .inr c => return .inr c)
    (some .undefined)

/-
  New variables for the names of a loop, with the values of the last round.
-/
def renewScope (env : Env) : Run Env := do
  match env.frames with
  | .names bindings :: rest =>
    let fresh ← bindings.mapM fun (x, n) => do return (x, ← allocateCell (← getCell n))
    return { env with frames := .names fresh :: rest }
  | _ => return env

/-
  The names that the head of a loop declares.
-/
def headCells : Tree → List (String × Cell)
  | .node (.declare .local) ds =>
    (Tree.boundNamesOf ds).map fun x => (x, { value := none })
  | .node (.declare .constant) ds =>
    (Tree.boundNamesOf ds).map fun x => (x, { value := none, isConstant := true })
  | _ => []

def isPresent (t : Tree) : Bool :=
  match t.label with
  | .absent => false
  | _ => true

/-
  Whether the condition of a loop holds; a loop without one goes on.
-/
def testHolds (m : Machine) (env : Env) (test : Tree) : Run Bool := do
  if isPresent test then return (← m.evaluate env test).toBool else return true

def executeFor
    (m : Machine)
    (env : Env)
    (labels : List String)
    (first test next body : Tree) :
    Run Completion := do
  let cells := headCells first
  let inner ← enterScope env cells
  match first with
  | .node .absent _ => pure ()
  | .node (.declare kind) ds => ds.forM (executeDeclarator m inner kind)
  | e => let _ ← m.evaluate inner e
  let renew := fun env => if cells.isEmpty then pure env else renewScope env
  let start ← renew inner
  repeatRun
    (fun (state : Env × Option Value × Bool) => do
      let (env, v, isFirst) := state
      if !isFirst then
        countRound
        if isPresent next then
          let _ ← m.evaluate env next
      if ← testHolds m env test then
        match afterBody labels v (← m.execute env body) with
        | .inl v => return .inl (← renew env, v, false)
        | .inr c => return .inr c
      else
        return .inr (.normal v))
    (start, some .undefined, true)

/-
  Binds the value of a round to what the head of a loop names.
-/
def bindRound (m : Machine) (assign : Sink) (env : Env) (target : Tree) (v : Value) :
    Run Env := do
  match target with
  | .node (.declare kind) [.declarator t _] =>
    let inner ← enterScope env (headCells target)
    let sink := if kind == .hoisted then hoistedSink m else declareSink
    bindPattern m inner sink t v
    return inner
  | t =>
    bindPattern m env assign t v
    return env

/-
  The names of the members that are listed, those of inherited ones included, up to a
  number of ancestors.
-/
def listedNames (objects : Array Object) : Nat → Option Ref → List Key → List Key
  | 0, _, _ => []
  | _, none, _ => []
  | fuel + 1, some r, seen =>
    match objects[r]? with
    | none => []
    | some o =>
      let own := o.keys.filter fun k => !k.isSymbol && !seen.contains k
      let listed := own.filter fun k => (o.own? k).any (·.isEnumerable)
      listed ++ listedNames objects fuel o.proto (own ++ seen)

def executeForIn
    (m : Machine)
    (assign : Sink)
    (env : Env)
    (labels : List String)
    (target e body : Tree) :
    Run Completion := do
  let v ← m.evaluate (← enterScope env (headCells target)) e
  if v.isNullish then
    return .normal (some .undefined)
  let r ← toObject v
  let w ← get
  let names := listedNames w.objects w.objects.size (some r) []
  repeatRun
    (fun (state : List Key × Option Value) => do
      let (left, v) := state
      countRound
      match left with
      | [] => return .inr (.normal v)
      | k :: rest =>
        if ← hasMember r k then
          let inner ← bindRound m assign env target k.toValue
          match afterBody labels v (← m.execute inner body) with
          | .inl v => return .inl (rest, v)
          | .inr c => return .inr c
        else
          return .inl (rest, v))
    (names, some .undefined)

def executeForOf
    (m : Machine)
    (assign : Sink)
    (env : Env)
    (labels : List String)
    (target e body : Tree) :
    Run Completion := do
  let it ← openIterator m (← m.evaluate (← enterScope env (headCells target)) e)
  repeatRun
    (fun (v : Option Value) => do
      countRound
      match ← it.step m with
      | none => return .inr (.normal v)
      | some x =>
        let c ← it.guard m do
          let inner ← bindRound m assign env target x
          m.execute inner body
        match afterBody labels v c with
        | .inl v => return .inl v
        | .inr c =>
          it.close m
          return .inr c)
    (some .undefined)

------------------------------------------------------------
-- Choices and Errors
------------------------------------------------------------

/-
  The statements of the cases from the first that matches on.
-/
def findCase (m : Machine) (env : Env) (v : Value) : List Tree → Run (Option (List Tree))
  | [] => return none
  | c :: rest => do
    match c with
    | .switchCase test _ =>
      if isPresent test then
        if v.strictlyEqual (← m.evaluate env test) then
          return some (c :: rest)
        else
          findCase m env v rest
      else
        findCase m env v rest
    | _ => findCase m env v rest

/-
  The cases from the default on.
-/
def fromDefault (cases : List Tree) : List Tree :=
  cases.dropWhile fun c =>
    match c with
    | .switchCase test _ => isPresent test
    | _ => true

def caseStatements (cases : List Tree) : List Tree :=
  cases.flatMap fun c =>
    match c with
    | .switchCase _ body => body
    | _ => []

def executeSwitch (m : Machine) (env : Env) (labels : List String) (e : Tree) (cases : List Tree) :
    Run Completion := do
  let v ← m.evaluate env e
  let inner ← enterBlock env (caseStatements cases)
  let chosen := (← findCase m inner v cases).getD (fromDefault cases)
  match (← executeList m inner (caseStatements chosen) none).settle .undefined with
  | .broken none v => return .normal v
  | .broken (some l) v =>
    if labels.contains l then return .normal v else return .broken (some l) v
  | c => return c

def executeHandler (m : Machine) (env : Env) (h : Tree) (v : Value) : Run Completion := do
  match h with
  | .node .handler [binder, .block statements] =>
    let names := binder.boundNames
    let inner ← enterScope env (names.map fun x => (x, { value := none }))
    if isPresent binder then
      bindPattern m inner declareSink binder v
    executeBlock m inner statements
  | _ => return .normal none

/-
  Executes statements and hands what they throw to a handler.  Limits are not handed on.
-/
def executeGuarded (m : Machine) (env : Env) (body h : Tree) : Run Completion := do
  let p := m.execute env body
  if isPresent h then
    match ← outcome p with
    | .error (.thrown v) => executeHandler m env h v
    | r => resume r
  else
    p

def executeTry (m : Machine) (env : Env) (body h f : Tree) : Run Completion := do
  let guarded := executeGuarded m env body h
  if isPresent f then
    let result ← outcome guarded
    match result with
    | .error (.limit message) => throw (.limit message)
    | .error .stuck => throw .stuck
    | .error .suspended => throw .suspended
    | result =>
      match ← m.execute env f with
      | .normal _ => return (← resume result).settle .undefined
      | c => return c.settle .undefined
  else
    return (← guarded).settle .undefined

------------------------------------------------------------
-- Statements
------------------------------------------------------------

/-
  A statement behind its labels.
-/
def unlabelled (labels : List String) : Tree → List String × Tree
  | .node (.labelled l) [t] => unlabelled (l :: labels) t
  | t => (labels, t)

/-
  A statement that is left when one of its labels is broken from.
-/
def leave (labels : List String) : Completion → Completion
  | .broken (some l) v => if labels.contains l then .normal v else .broken (some l) v
  | c => c

/-
  Executes a statement with the labels before it.
-/
def executeLabelled (m : Machine) (assign : Sink) (env : Env) (labels : List String) (t : Tree) :
    Run Completion := do
  match t with
  | .node .empty _ => return .normal none
  | .node .debugger _ => return .normal none
  | .node .expression [e] => return .normal (some (← m.evaluate env e))
  | .node .block statements => executeBlock m env statements
  | .node (.declare kind) ds =>
    ds.forM (executeDeclarator m env kind)
    return .normal none
  | .node .declareFunction _ => return .normal none
  | .node .declareClass [c] =>
    let v ← m.evaluate env c
    match c with
    | .node (.klass (some x) _) _ => bindFirst env x v
    | _ => pure ()
    return .normal none
  | .node .ifElse [test, yes, no] =>
    if (← m.evaluate env test).toBool then
      return (← m.execute env yes).settle .undefined
    else if isPresent no then
      return (← m.execute env no).settle .undefined
    else
      return .normal (some .undefined)
  | .node .whileLoop [test, body] => executeWhile m env labels test body
  | .node .doLoop [body, test] => executeDo m env labels body test
  | .node .forLoop [first, test, next, body] => executeFor m env labels first test next body
  | .node .forIn [target, e, body] => executeForIn m assign env labels target e body
  | .node (.forOf isAwait) [target, e, body] =>
    if isAwait then
      awaitFirst m (← m.evaluate (← enterScope env (headCells target)) e)
    else
      executeForOf m assign env labels target e body
  | .node (.continueTo l) _ => return .continued l none
  | .node (.breakFrom l) _ => return .broken l none
  | .node .giveBack [e] =>
    if isPresent e then
      let v ← m.evaluate env e
      if env.awaitsResult then throw .suspended else return .returned v
    else
      return .returned .undefined
  | .node .withScope [e, body] =>
    let r ← toObject (← m.evaluate env e)
    return (← m.execute (env.push (.object r)) body).settle .undefined
  | .node .switch (e :: cases) => executeSwitch m env labels e cases
  | .node .raise [e] => throwValue (← m.evaluate env e)
  | .node .attempt [body, h, f] => executeTry m env body h f
  | _ => return .normal none

/-
  Executes a statement; `assign` says how loops assign to what is no declaration.
-/
def executeTree (m : Machine) (assign : Sink) (env : Env) (t : Tree) : Run Completion := do
  let (labels, t) := unlabelled [] t
  return leave labels (← executeLabelled m assign env labels t)

end Realm

end Devirt

import Devirt.Realm.Operator
import Devirt.Realm.Iterate
import Devirt.Realm.Scope

/-
  Functions written in scripts.

  Key definitions include:
    * `makeClosure`
    * `bindPattern`
    * `callClosure`, `constructClosure`
-/

namespace Devirt

namespace Realm

open Script (Tree FunctionInfo FunctionKind)

------------------------------------------------------------
-- Making Functions
------------------------------------------------------------

/-
  The number of parameters before the first that has a default or takes the rest.
-/
def expectedArguments (params : List Tree) : Nat :=
  (params.takeWhile fun p =>
    match p.label with
    | .defaulted => false
    | .rest => false
    | _ => true).length

def functionProtoOf (info : FunctionInfo) : Intrinsic :=
  match info.isAsync, info.isGenerator with
  | true, true => .asyncGeneratorFunctionProto
  | true, false => .asyncFunctionProto
  | false, true => .generatorFunctionProto
  | false, false => .functionProto

/-
  From what the objects inherit that a generator function makes.
-/
def generatorProtoOf (info : FunctionInfo) : Intrinsic :=
  if info.isAsync then .asyncGeneratorProto else .generatorProto

def isConstructorKind (info : FunctionInfo) : Bool :=
  !info.isAsync && !info.isGenerator
    && (info.kind == .normal || info.kind == .constructor || info.kind == .derivedConstructor)

/-
  Whether an object can make others.
-/
def isConstructorRef (r : Ref) : Run Bool := do
  let w ← get
  match (← getObject (unboundIn w.objects w.objects.size r)).kind with
  | .closure c => return c.isClass || isConstructorKind c.info
  | .native (.make _) => return true
  | _ => return false

/-
  Gives a function its length and its name.
-/
def describeFunction (r : Ref) (length : Nat) (name : Units) : Run Unit :=
  updateObject r fun o =>
    (o.put Key.length (.readOnly (.ofNat length))).put Key.name (.readOnly (.string name))

/-
  Makes a function from its tree.
-/
def makeClosure
    (env : Env)
    (info : FunctionInfo)
    (params body : List Tree)
    (name : Units)
    (home : Option Ref) :
    Run Ref := do
  let r ← allocate
    { proto := some (functionProtoOf info).ref
      kind := .closure { info, params, body, env, home } }
  describeFunction r (expectedArguments params) name
  if info.kind == .normal && !info.isAsync && !info.isGenerator then
    let proto ← makeObject
    hide proto Key.constructor (.object r)
    updateObject r fun o => o.put Key.prototype ⟨.data (.object proto) true, false, false⟩
  else if info.isGenerator then
    let proto ← allocate { proto := some (generatorProtoOf info).ref }
    updateObject r fun o => o.put Key.prototype ⟨.data (.object proto) true, false, false⟩
  return r

/-
  Makes a function that can refer to itself by its own name.
-/
def makeNamedClosure
    (env : Env)
    (info : FunctionInfo)
    (params body : List Tree)
    (x : String) :
    Run Ref := do
  let cell ← allocateCell { value := none, isSilent := true }
  let inner := env.push (.names [(x, cell)])
  let r ← makeClosure inner info params body (.ofString x) none
  setCell cell { value := some (.object r), isSilent := true }
  return r

/-
  The function of a declaration.
-/
def declaredClosure (env : Env) (x : String) (f : Tree) : Run Value := do
  match f with
  | .function info params body =>
    return .object (← makeClosure env info params body (.ofString x) none)
  | _ => return .undefined

/-
  Whether an expression is a function or class without a name of its own.
-/
def isAnonymous (t : Tree) : Bool :=
  match t.label with
  | .function info => info.name.isNone
  | .klass name _ => name.isNone
  | _ => false

/-
  Gives a function or class without a name the name under which it is kept.
-/
def nameValue (v : Value) (name : Units) : Run Unit := do
  match v with
  | .object r =>
    match (← getObject r).own? Key.name with
    | some ⟨.data (.string s) _, _, _⟩ =>
      if s.isEmpty then
        updateObject r fun o => o.put Key.name (.readOnly (.string name))
    | none => updateObject r fun o => o.put Key.name (.readOnly (.string name))
    | _ => pure ()
  | _ => pure ()

/-
  The value of an expression that is kept under a name.
-/
def evaluateAs (m : Machine) (env : Env) (name : Units) (t : Tree) : Run Value := do
  let v ← m.evaluate env t
  if isAnonymous t then
    nameValue v name
  return v

------------------------------------------------------------
-- Patterns
------------------------------------------------------------

/-
  What is done with a value at the end of a pattern.  What the end of the pattern says is
  evaluated before the value is known.
-/
abbrev Sink := Env → Tree → Run (Value → Run Unit)

/-
  The name under which a secret of a class is declared.
-/
def secretName (x : String) : String := "#" ++ x

/-
  The key of a secret.
-/
def secretKey (env : Env) (x : String) : Key :=
  .secret ((cellIn? (secretName x) env.frames).getD 0)

/-
  The key that a tree stands for.
-/
def evaluateKey (m : Machine) (env : Env) (t : Tree) : Run Key := do
  match t with
  | .node (.keyText s) _ => return .ofUnits s
  | .node (.keyPrivate x) _ => return secretKey env x
  | .node .keyComputed [e] => toKey m (← m.evaluate env e)
  | _ => return .ofString ""

/-
  The text of a key as the name of a function.
-/
def keyName (k : Key) : Run Units := do
  match k with
  | .symbol id =>
    match (← get).symbols.getD id none with
    | some s => return Units.ofString "[" ++ s ++ Units.ofString "]"
    | none => return .empty
  | .secret n =>
    match (← getCell n).value with
    | some (.string s) => return s
    | _ => return .empty
  | k => return k.text?.getD .empty

/-
  A value, or the default in its place.
-/
def orDefault (m : Machine) (env : Env) (target e : Tree) (v : Value) : Run Value := do
  if v.isUndefined then
    match target with
    | .name x => evaluateAs m env (.ofString x) e
    | _ => m.evaluate env e
  else
    return v

/-
  A new object with the members of another except for some.
-/
def copyWithout (m : Machine) (v : Value) (excluded : List Key) : Run Ref := do
  let result ← makeObject
  if !v.isNullish then
    let source ← toObject v
    let o ← getObject source
    for k in o.keys do
      if !excluded.contains k then
        match (← getObject source).own? k with
        | some p =>
          if p.isEnumerable then
            createMember result k (← getFrom m source k)
        | none => pure ()
  return result

mutual

/-
  Takes a value apart by a pattern.
-/
def bindPattern (m : Machine) (env : Env) (sink : Sink) : Tree → Value → Run Unit
  | .node .arrayPattern items, v => do
    let it ← openIterator m v
    bindElements m env sink it false items
  | .node .objectPattern ps, v => do
    if v.isNullish then
      throwType nullishMessage
    bindProperties m env sink v [] ps
  | .node .defaulted [target, e], v => do
    if target.isPattern then
      bindPattern m env sink target (← orDefault m env target e v)
    else
      let put ← sink env target
      put (← orDefault m env target e v)
  | t, v => do
    let put ← sink env t
    put v

/-
  What is done with the value for a part of a pattern.
-/
def bindLater (m : Machine) (env : Env) (sink : Sink) : Tree → Run (Value → Run Unit)
  | .node .absent _ => return fun _ => pure ()
  | .node .defaulted [target, e] => do
    if target.isPattern then
      return fun v => do bindPattern m env sink target (← orDefault m env target e v)
    else
      let put ← sink env target
      return fun v => do put (← orDefault m env target e v)
  | .node .arrayPattern items =>
    return fun v => do
      let it ← openIterator m v
      bindElements m env sink it false items
  | .node .objectPattern ps =>
    return fun v => do
      if v.isNullish then
        throwType nullishMessage
      bindProperties m env sink v [] ps
  | t => sink env t

/-
  Takes the values of an iterator apart by the elements of a pattern; the flag says that
  there are no more values.
-/
def bindElements (m : Machine) (env : Env) (sink : Sink) (it : Iterator) :
    Bool → List Tree → Run Unit
  | isDone, [] => if isDone then pure () else it.close m
  | isDone, .node .rest [target] :: _ => do
    let later := bindLater m env sink target
    let put ← if isDone then later else it.guard m later
    let rest ← if isDone then pure [] else it.collect m
    put (← makeArray rest)
  | isDone, t :: ts => do
    let later := bindLater m env sink t
    let put ← if isDone then later else it.guard m later
    let next ← if isDone then pure none else it.step m
    match next with
    | some v => it.guard m (put v)
    | none => put .undefined
    bindElements m env sink it next.isNone ts

/-
  Takes the members of a value apart by the properties of a pattern, some of which have
  been seen.
-/
def bindProperties (m : Machine) (env : Env) (sink : Sink) (v : Value) :
    List Key → List Tree → Run Unit
  | _, [] => pure ()
  | seen, .node .rest [target] :: _ => do
    let put ← bindLater m env sink target
    put (.object (← copyWithout m v seen))
  | seen, .node (.propertyPattern _) [key, target] :: ps => do
    let k ← evaluateKey m env key
    let put ← bindLater m env sink target
    put (← getMember m v k)
    bindProperties m env sink v (k :: seen) ps
  | seen, _ :: ps => bindProperties m env sink v seen ps

end

/-
  Gives declared names their first values.
-/
def declareSink : Sink := fun env t =>
  match t with
  | .name x => return bindFirst env x
  | _ => return fun _ => pure ()

/-
  Gives parameters their first values.  Those of an arrow function may also assign to
  members.
-/
def paramSink (m : Machine) : Sink := fun env t => do
  match t with
  | .name x => return bindFirst env x
  | .select e x =>
    let base ← m.evaluate env e
    return setMember m env.isStrict base (Key.ofString x)
  | .index e i =>
    let base ← m.evaluate env e
    let k ← toKey m (← m.evaluate env i)
    return setMember m env.isStrict base k
  | _ => return fun _ => pure ()

------------------------------------------------------------
-- Calls
------------------------------------------------------------

def recursionMessage : String := "exceeded maximum number of recursive calls"

/-
  Fails when too many calls are going on.
-/
def checkDepth : Run Unit := do
  let w ← get
  if w.limits.recursion ≤ w.depth then
    throw (.limit recursionMessage)

/-
  Runs the code of a call, which counts its rounds anew.
-/
def inCall (p : Run α) : Run α := do
  let w ← get
  let rounds := w.rounds
  let depth := w.depth
  set { w with depth := depth + 1, rounds := 0 }
  let r ← outcome p
  modify fun w => { w with depth, rounds }
  resume r

/-
  Binds the parameters of a function to arguments.
-/
def bindParams (m : Machine) (env : Env) : List Tree → List Value → Run Unit
  | [], _ => pure ()
  | .node .rest [target] :: _, arguments => do
    bindPattern m env (paramSink m) target (← makeArray arguments)
  | .name x :: ps, arguments => do
    bindFirst env x (arguments.headD .undefined)
    bindParams m env ps (arguments.drop 1)
  | p :: ps, arguments => do
    bindPattern m env (paramSink m) p (arguments.headD .undefined)
    bindParams m env ps (arguments.drop 1)

/-
  The object through which a function can see all its arguments.  It names the function
  only if arguments and parameters are linked.
-/
def makeArguments (callee : Ref) (areLinked : Bool) (arguments : List Value) : Run Ref := do
  let r ← allocate
    { proto := some Intrinsic.objectProto.ref
      kind := .arguments #[]
      items := (arguments.map some).toArray }
  hide r Key.length (.ofNat arguments.length)
  let values := (← lookup Intrinsic.arrayProto.ref WellKnown.iterator.key)
  updateObject r fun o => o.put WellKnown.iterator.key (values.getD (.hidden .undefined))
  let k := Key.ofString "callee"
  if areLinked then
    hide r k (.object callee)
  else
    let refusal := Value.object Intrinsic.refusal.ref
    updateObject r fun o => o.put k ⟨.accessor refusal refusal, false, false⟩
  return r

/-
  The variable of each parameter; of those with one name only the last has it.
-/
def paramCells (env : Env) : List Tree → List (Option Nat)
  | [] => []
  | p :: ps =>
    let later := Tree.boundNamesOf ps
    let cell := match p with
      | .name x => if later.contains x then none else cellIn? x env.frames
      | _ => none
    cell :: paramCells env ps

/-
  Lets arguments and parameters share their values.
-/
def linkArguments (r : Ref) (env : Env) (params : List Tree) (count : Nat) : Run Unit := do
  let twins := (paramCells env params).take count
  updateObject r fun o => { o with kind := .arguments twins.toArray }
  for (twin, i) in twins.zipIdx do
    match twin with
    | some n => setCell n { ← getCell n with twin := some (r, i) }
    | none => pure ()

/-
  The object that a function works on.
-/
def thisFor (isStrict : Bool) (this : Value) : Run Value := do
  if isStrict then
    return this
  else if this.isNullish then
    return .object Intrinsic.global.ref
  else
    return .object (← toObject this)

/-
  The first value of a variable of a body: that of the parameter with its name, if any.
-/
def firstValue (env : Env) (params : List String) (x : String) : Run Value := do
  if params.contains x then
    match cellIn? x env.frames with
    | some n => return (← getCell n).value.getD .undefined
    | none => return .undefined
  else
    return .undefined

/-
  Declares the variables and functions of a body.  A variable with the name of a parameter
  is that parameter, unless the body has variables of its own.
-/
def enterBody (env : Env) (hasOwn : Bool) (params : List String) (body : List Tree) :
    Run Env := do
  let functions := Tree.declaredFunctions body
  let hoisted := (Tree.hoistedNamesOf body ++ functions.map (·.1)).eraseDups
  let fresh := if hasOwn then hoisted else hoisted.filter fun x => !params.contains x
  let cells ← fresh.mapM fun x => do
    return (x, ({ value := some (← firstValue env params x) } : Cell))
  let env ← enterScope env cells
  let env ← enterScope env (localCells body)
  for (x, f) in functions do
    bindFirst env x (← declaredClosure env x f)
  return env

/-
  Executes statements one after the other and gives the value of the last one that has
  any.
-/
def executeList (m : Machine) (env : Env) : List Tree → Option Value → Run Completion
  | [], v => return .normal v
  | t :: ts, v => do
    match ← m.execute env t with
    | .normal w => executeList m env ts (match w with
      | some w => some w
      | none => v)
    | .broken l w => return .broken l (match w with
      | some w => some w
      | none => v)
    | .continued l w => return .continued l (match w with
      | some w => some w
      | none => v)
    | .returned w => return .returned w

/-
  Executes the body of a function.
-/
def executeBody (m : Machine) (env : Env) (body : List Tree) : Run Value := do
  match ← executeList m env body none with
  | .returned v => return v
  | _ => return .undefined

/-
  The environment of a call, with parameters and declarations in place.
-/
def enterClosure
    (m : Machine)
    (c : Closure)
    (callee : Ref)
    (thisCell : Nat)
    (newTarget : Value)
    (arguments : List Value) :
    Run Env := do
  let isArrow := c.info.kind == .arrow
  let base : Env :=
    if isArrow then
      { c.env with isStrict := c.info.isStrict, awaitsResult := false }
    else
      { frames := c.env.frames
        thisCell
        callee := some callee
        newTarget
        home := c.home
        isStrict := c.info.isStrict
        awaitsResult := c.info.isAsync && c.info.isGenerator }
  let names := Tree.boundNamesOf c.params
  let cells : List (String × Cell) := names.eraseDups.map fun x => (x, { value := none })
  let hasOwn := Tree.anyHoldsExpression c.params
  if c.info.usesArguments && !isArrow && !names.contains "arguments" then
    let areLinked := !c.info.isStrict && c.params.all Tree.isName
    let r ← makeArguments callee areLinked arguments
    let env ← enterScope base (("arguments", { value := some (.object r) }) :: cells)
    bindParams m env c.params arguments
    if areLinked then
      linkArguments r env c.params arguments.length
    enterBody env hasOwn ("arguments" :: names) c.body
  else
    let env ← enterScope base cells
    bindParams m env c.params arguments
    enterBody env hasOwn names c.body

------------------------------------------------------------
-- Code that Waits
------------------------------------------------------------

def makePromise (s : Settlement) : Run Value := do
  return .object (← allocate { proto := some Intrinsic.promiseProto.ref, kind := .promise s })

/-
  What becomes of a promise that is resolved with a value.  It waits for one that can be
  waited for, which is never over before the script is.
-/
def resolution (m : Machine) (v : Value) : Run Settlement := do
  match v with
  | .object _ =>
    match ← outcome (getMember m v (Key.ofString "then")) with
    | .ok f => return if ← isCallable f then .following else .fulfilled v
    | .error (.thrown e) => return .rejected e
    | .error e => throw e
  | v => return .fulfilled v

/-
  Runs an asynchronous body: what it gives, or that it waits, becomes a promise.
-/
def runAsync (m : Machine) (p : Run Value) : Run Value := do
  match ← outcome p with
  | .ok v => makePromise (← resolution m v)
  | .error (.thrown v) => makePromise (.rejected v)
  | .error .suspended => makePromise .pending
  | .error e => throw e

------------------------------------------------------------
-- Calls
------------------------------------------------------------

/-
  The object from which a new object inherits.
-/
def protoFor (m : Machine) (newTarget : Ref) (fallback : Intrinsic) : Run Ref := do
  match ← getFrom m newTarget Key.prototype with
  | .object r => return r
  | _ => return fallback.ref

/-
  The object through which the code of a generator function is run, after its parameters
  are bound.
-/
def makeGenerator (m : Machine) (c : Closure) (callee : Ref) (env : Env) : Run Value := do
  let proto ← protoFor m callee (generatorProtoOf c.info)
  let start := Activity.fresh env c.body
  let kind : Kind := if c.info.isAsync then .asyncGenerator start else .generator start
  return .object (← allocate { proto := some proto, kind })

/-
  Calls a function written in a script.
-/
def callClosure
    (m : Machine)
    (c : Closure)
    (callee : Ref)
    (this : Value)
    (arguments : List Value) :
    Run Value := do
  if c.isClass then
    throwType "class constructor cannot be invoked without 'new'"
  inCall do
    let this ← thisFor c.info.isStrict this
    let cell ← allocateCell { value := some this }
    let enter := enterClosure m c callee cell .undefined arguments
    if c.info.isGenerator then
      makeGenerator m c callee (← enter)
    else
      let run := do executeBody m (← enter) c.body
      if c.info.isAsync then runAsync m run else run

------------------------------------------------------------
-- Construction
------------------------------------------------------------

/-
  Evaluates something in a call of its own that works on an object, as the code of a class
  does.
-/
def onObject (env : Env) (home : Option Ref) (callee r : Ref) (p : Env → Run α) : Run α := do
  checkDepth
  inCall do
    let cell ← allocateCell { value := some (.object r) }
    p
      { frames := env.frames
        thisCell := cell
        callee := some callee
        newTarget := .undefined
        home
        isStrict := true }

/-
  Gives an object a field.
-/
def defineField (m : Machine) (r : Ref) (k : Key) (v : Value) : Run Unit := do
  if k.isSecret then
    addSecret r k (.plain v)
  else
    defineOrThrow m r k (.ofProperty (.plain v))

/-
  The first value of a field.
-/
def fieldValue (m : Machine) (env : Env) (k : Key) (t : Tree) : Run Value := do
  match t with
  | .node .absent _ => return .undefined
  | t => evaluateAs m env (← keyName k) t

/-
  Gives a new object what its class says: first the secret methods, then the fields.
-/
def defineFields (m : Machine) (c : Closure) (callee : Ref) (this : Value) : Run Unit := do
  match this with
  | .object r =>
    for (k, p) in c.secrets do
      addSecret r k p
    for (k, t) in c.fields do
      let v ← onObject c.env c.home callee r fun env => fieldValue m env k t
      defineField m r k v
  | _ => pure ()

/-
  The object that code works on, which a derived class has only once it called the
  constructor of its parent.
-/
def readThis (cell : Nat) : Run Value := do
  match (← getCell cell).value with
  | some v => return v
  | none =>
    raiseError .reference
      ("Must call super constructor in derived class before accessing 'this' or returning "
        ++ "from derived constructor")

/-
  Makes an object with a function written in a script.
-/
def constructClosure
    (m : Machine)
    (c : Closure)
    (callee : Ref)
    (arguments : List Value)
    (newTarget : Ref) :
    Run Value := do
  let isDerived := c.info.kind == .derivedConstructor
  let this ←
    if isDerived then
      pure none
    else do
      let proto ← protoFor m newTarget .objectProto
      pure (some (Value.object (← allocate { proto := some proto })))
  inCall do
    let cell ← allocateCell { value := this }
    match this with
    | some v => defineFields m c callee v
    | none => pure ()
    let env ← enterClosure m c callee cell (.object newTarget) arguments
    let result ← executeBody m env c.body
    match result with
    | .object r => return .object r
    | _ =>
      if isDerived && !result.isUndefined then
        throwType "derived constructor can only return an Object or undefined"
      readThis cell

end Realm

end Devirt

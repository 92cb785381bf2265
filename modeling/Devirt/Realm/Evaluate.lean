import Devirt.Realm.Generator
import Devirt.Script.Regexp.Parser

/-
  The values of expressions.

  Each function takes the machine through which it evaluates the parts of a tree.

  Key definitions include:
    * `evaluateTree`
    * `evaluateCall`, `evaluateAssign`, `evaluateObject`, `evaluateClass`
-/

namespace Devirt

namespace Realm

open Script (Tree FunctionInfo FunctionKind UnaryOp BinaryOp LogicalOp AssignOp Chunk)

------------------------------------------------------------
-- Lists and Texts
------------------------------------------------------------

/-
  The values of arguments.
-/
def evaluateItems (m : Machine) (env : Env) : List Tree → Run (List Value)
  | [] => return []
  | .node .spread [e] :: ts => do
    let vs ← collect m (← m.evaluate env e)
    return vs ++ (← evaluateItems m env ts)
  | t :: ts => do
    let v ← m.evaluate env t
    return v :: (← evaluateItems m env ts)

/-
  The elements of an array, some of which may be left out.
-/
def evaluateElements (m : Machine) (env : Env) (done : Array (Option Value)) :
    List Tree → Run (Array (Option Value))
  | [] => return done
  | .node .absent _ :: ts => evaluateElements m env (done.push none) ts
  | .node .spread [e] :: ts => do
    let vs ← collect m (← m.evaluate env e)
    evaluateElements m env (done ++ (vs.map some).toArray) ts
  | t :: ts => do
    let v ← m.evaluate env t
    evaluateElements m env (done.push (some v)) ts

/-
  The text of a template.
-/
def evaluateTemplate (m : Machine) (env : Env) (done : Units) :
    List Chunk → List Tree → Run Units
  | chunk :: chunks, e :: es => do
    let s ← toUnits m (← m.evaluate env e)
    evaluateTemplate m env (done ++ chunk.cooked.getD .empty ++ s) chunks es
  | chunk :: _, [] => return done ++ chunk.cooked.getD .empty
  | [], _ => return done

/-
  A list that cannot be changed, with other members that cannot be changed.
-/
def makeFixedArray (items : List Value) (members : List (Key × Value)) : Run Value := do
  let elements : List (Key × Property) :=
    items.zipIdx.map fun (v, i) => (.index i, ⟨.data v false, true, false⟩)
  let others := members.map fun (k, v) => (k, Property.fixed v)
  let r ← allocate
    { proto := some Intrinsic.arrayProto.ref
      kind := .array items.length false
      isExtensible := false
      properties := (elements ++ others).toArray }
  return .object r

/-
  The list of pieces that a tag gets, which is the same for each evaluation of a template.
-/
def templateObject (site : Nat) (chunks : List Chunk) : Run Value := do
  match (← get).templates.find? fun t => t.1 == site with
  | some (_, v) => return v
  | none =>
    let raw ← makeFixedArray (chunks.map fun c => .string c.raw) []
    let cooked := chunks.map fun c => (c.cooked.map Value.string).getD .undefined
    let v ← makeFixedArray cooked [(Key.ofString "raw", raw)]
    modify fun w => { w with templates := (site, v) :: w.templates }
    return v

/-
  Makes a regular expression that inherits from an object.
-/
def makeRegexpWith (proto : Ref) (source : Units) (flags : String) : Run Value := do
  match Script.Regexp.parse? source flags with
  | some regexp =>
    let r ← allocate
      { proto := some proto
        kind := .regexp regexp source flags
        properties :=
          #[(Key.ofString "lastIndex", ⟨.data (.number 0) true, false, false⟩)] }
    return .object r
  | none => raiseError .parsing "invalid regular expression"

def makeRegexp (source : Units) (flags : String) : Run Value :=
  makeRegexpWith Intrinsic.regexpProto.ref source flags

------------------------------------------------------------
-- Inherited Members
------------------------------------------------------------

def evaluateThis (env : Env) : Run Value := readThis env.thisCell

/-
  A member of the parent of the object a method belongs to.
-/
def superMember (m : Machine) (env : Env) (k : Key) : Run Value := do
  let this ← evaluateThis env
  match env.home with
  | some home =>
    match (← getObject home).proto with
    | some parent => readProperty m (← lookup parent k) this
    | none => throwType nullishMessage
  | none => return .undefined

/-
  Assigns to a member of the parent of the object a method belongs to; the receiver is what
  the method works on.
-/
def setSuperMember (m : Machine) (env : Env) (k : Key) (v : Value) : Run Unit := do
  let this ← evaluateThis env
  match env.home with
  | some home =>
    match (← getObject home).proto with
    | some parent => checkAssigned env.isStrict k (← assignFor m parent k v this)
    | none => throwType nullishMessage
  | none => pure ()

/-
  The fields of the class a constructor belongs to.
-/
def defineOwnFields (m : Machine) (callee : Ref) (this : Value) : Run Unit := do
  match (← getObject callee).kind with
  | .closure c => defineFields m c callee this
  | _ => pure ()

/-
  Calls the constructor of the parent class.
-/
def evaluateSuperCall (m : Machine) (env : Env) (arguments : List Tree) : Run Value := do
  match env.callee, env.newTarget with
  | some callee, .object newTarget =>
    let values ← evaluateItems m env arguments
    match (← getObject callee).proto with
    | some parent =>
      if ← isConstructorRef parent then
        let v ← m.construct parent values newTarget
        if (← getCell env.thisCell).value.isSome then
          raiseError .reference "cannot reinitialize `this` binding"
        setCell env.thisCell { value := some v }
        defineOwnFields m callee v
        return v
      else
        throwType "super constructor object must be constructor"
    | none => throwType "super constructor object must be constructor"
  | _, _ => throwType "super constructor object must be constructor"

------------------------------------------------------------
-- Calls
------------------------------------------------------------

/-
  A function that is called and the object it works on.
-/
def evaluateCallee (m : Machine) (env : Env) : Tree → Run (Value × Value)
  | .node .paren [e] => evaluateCallee m env e
  | .select e x => do
    let base ← m.evaluate env e
    return (← getMember m base (Key.ofString x), base)
  | .index e i => do
    let base ← m.evaluate env e
    let k ← m.evaluate env i
    if base.isNullish then
      throwType nullishMessage
    return (← getMember m base (← toKey m k), base)
  | .node (.selectPrivate x) [e] => do
    let base ← m.evaluate env e
    return (← getSecret m base (secretKey env x), base)
  | .node (.selectSuper x) _ => do
    return (← superMember m env (Key.ofString x), ← evaluateThis env)
  | .node .indexSuper [i] => do
    let k ← toKey m (← m.evaluate env i)
    return (← superMember m env k, ← evaluateThis env)
  | .name x => do
    match ← resolve m env x with
    | .member r =>
      let this : Value := if r == Intrinsic.global.ref then .undefined else .object r
      return (← getFrom m r (Key.ofString x), this)
    | p => return (← readPlace m x p, .undefined)
  | t => do return (← m.evaluate env t, .undefined)

def evaluateCall (m : Machine) (env : Env) (f : Tree) (arguments : List Tree) : Run Value := do
  let (callee, this) ← evaluateCallee m env f
  let values ← evaluateItems m env arguments
  m.call callee this values

def evaluateNew (m : Machine) (env : Env) (f : Tree) (arguments : List Tree) : Run Value := do
  let callee ← m.evaluate env f
  let values ← evaluateItems m env arguments
  match callee with
  | .object r =>
    if ← isConstructorRef r then m.construct r values r else throwType "not a constructor"
  | _ => throwType "not a constructor"

/-
  Follows the links of an optional chain from a value and the object it was a member of.
-/
def followChain (m : Machine) (env : Env) : Value × Value → List Tree → Run Value
  | (v, _), [] => return v
  | (v, this), link :: links => do
    let optional := match link.label with
      | .linkSelect o _ => o
      | .linkIndex o => o
      | .linkPrivate o _ => o
      | .linkCall o => o
      | _ => false
    if optional && v.isNullish then
      return .undefined
    else
      match link with
      | .node (.linkSelect _ x) _ =>
        followChain m env (← getMember m v (Key.ofString x), v) links
      | .node (.linkIndex _) [i] =>
        let k ← toKey m (← m.evaluate env i)
        followChain m env (← getMember m v k, v) links
      | .node (.linkPrivate _ x) _ =>
        followChain m env (← getSecret m v (secretKey env x), v) links
      | .node (.linkCall _) arguments =>
        let values ← evaluateItems m env arguments
        followChain m env (← m.call v this values, .undefined) links
      | _ => return .undefined

------------------------------------------------------------
-- Assignment
------------------------------------------------------------

/-
  Where an assignment goes.
-/
inductive Target where
  | name (x : String) (p : Place)
  | member (base : Value) (k : Key)
  | secret (base : Value) (k : Key)
  | superMember (k : Key)

def evaluateTarget (m : Machine) (env : Env) : Tree → Run Target
  | .name x => do return .name x (← resolve m env x)
  | .select e x => do return .member (← m.evaluate env e) (Key.ofString x)
  | .index e i => do
    let base ← m.evaluate env e
    let k ← m.evaluate env i
    if base.isNullish then
      throwType nullishMessage
    return .member base (← toKey m k)
  | .node (.selectPrivate x) [e] => do
    return .secret (← m.evaluate env e) (secretKey env x)
  | .node (.selectSuper x) _ => return .superMember (Key.ofString x)
  | .node .indexSuper [i] => do return .superMember (← toKey m (← m.evaluate env i))
  | _ => raiseError .reference "invalid assignment target"

def readTarget (m : Machine) (env : Env) : Target → Run Value
  | .name x p => readPlace m x p
  | .member base k => getMember m base k
  | .secret base k => getSecret m base k
  | .superMember k => superMember m env k

def writeTarget (m : Machine) (env : Env) (t : Target) (v : Value) : Run Unit := do
  match t with
  | .name x p => assignPlace m env x p v
  | .member base k => setMember m env.isStrict base k v
  | .secret base k => setSecret m base k v
  | .superMember k => setSuperMember m env k v

/-
  Assigns the parts of a value to the places in a pattern.
-/
def assignSink (m : Machine) : Sink := fun env t => do
  return writeTarget m env (← evaluateTarget m env t)

def evaluateFor (m : Machine) (env : Env) (target value : Tree) : Run Value := do
  match target with
  | .name x => evaluateAs m env (.ofString x) value
  | _ => m.evaluate env value

/-
  Whether a logical operator asks for its second operand.
-/
def asksForMore (op : LogicalOp) (v : Value) : Bool :=
  match op with
  | .and => v.toBool
  | .or => !v.toBool
  | .coalesce => v.isNullish

def evaluateAssign (m : Machine) (env : Env) (op : AssignOp) (target value : Tree) :
    Run Value := do
  match op with
  | .plain =>
    if target.isPattern then
      let v ← m.evaluate env value
      bindPattern m env (assignSink m) target v
      return v
    else
      let place ← evaluateTarget m env target
      let v ← evaluateFor m env target value
      writeTarget m env place v
      return v
  | .compute op =>
    let place ← evaluateTarget m env target
    let old ← readTarget m env place
    let v ← applyBinary m op old (← m.evaluate env value)
    writeTarget m env place v
    return v
  | .logical op =>
    let place ← evaluateTarget m env target
    let old ← readTarget m env place
    if asksForMore op old then
      let v ← evaluateFor m env target value
      writeTarget m env place v
      return v
    else
      return old

def evaluateUpdate (m : Machine) (env : Env) (up before : Bool) (target : Tree) :
    Run Value := do
  let place ← evaluateTarget m env target
  let old ← toNumeric m (← readTarget m env place)
  let new : Value := match old with
    | .bigint n => .bigint (if up then n + 1 else n - 1)
    | .number x => .number (if up then x + 1 else x - 1)
    | v => v
  writeTarget m env place new
  return if before then new else old

------------------------------------------------------------
-- Unary Operators
------------------------------------------------------------

def deleteMember (env : Env) (base : Value) (k : Key) : Run Value := do
  let r ← toObject base
  let done ← deleteOwn r k
  if !done && env.isStrict then
    throwType "Cannot delete property"
  return .bool done

def evaluateDelete (m : Machine) (env : Env) (t : Tree) : Run Value := do
  match t.inner with
  | .select e x => do deleteMember env (← m.evaluate env e) (Key.ofString x)
  | .index e i => do
    let base ← m.evaluate env e
    let k ← toKey m (← m.evaluate env i)
    deleteMember env base k
  | .name x =>
    match ← resolve m env x with
    | .member r => return .bool (← deleteOwn r (Key.ofString x))
    | .cell _ => return .bool false
    | .nowhere => return .bool true
  | e => do
    let _ ← m.evaluate env e
    return .bool true

def evaluateUnary (m : Machine) (env : Env) (op : UnaryOp) (t : Tree) : Run Value := do
  match op with
  | .delete => evaluateDelete m env t
  | .typeOf =>
    match t.inner with
    | .name x =>
      match ← resolve m env x with
      | .nowhere => return .ofString "undefined"
      | p => return .ofString (← typeName (← readPlace m x p))
    | e => return .ofString (← typeName (← m.evaluate env e))
  | op => applyUnary m op (← m.evaluate env t)

------------------------------------------------------------
-- Objects
------------------------------------------------------------

/-
  Makes the function of a method or accessor.
-/
def makeMethod (env : Env) (holder : Ref) (k : Key) (f : Tree) :
    Run (FunctionKind × Value) := do
  match f with
  | .function info params body =>
    let start := match info.kind with
      | .getter => "get "
      | .setter => "set "
      | _ => ""
    let name := Units.ofString start ++ (← keyName k)
    return (info.kind, .object (← makeClosure env info params body name (some holder)))
  | _ => return (.method, .undefined)

/-
  Defines a method or accessor of an object.
-/
def defineMethod
    (m : Machine)
    (env : Env)
    (holder : Ref)
    (isEnumerable : Bool)
    (key f : Tree) :
    Run Unit := do
  let k ← evaluateKey m env key
  let (kind, v) ← makeMethod env holder k f
  let d : Descriptor := match kind with
    | .getter => { getter := some v }
    | .setter => { setter := some v }
    | _ => { value := some v, isWritable := some true }
  let done ← defineOwn holder k
    { d with isEnumerable := some isEnumerable, isConfigurable := some true }
  if !done then
    throwType (← redefinedMessage k)

/-
  Copies the members that are listed.
-/
def copyMembers (m : Machine) (target : Ref) (v : Value) : Run Unit := do
  if !v.isNullish then
    let source ← toObject v
    for k in (← getObject source).keys do
      match (← getObject source).own? k with
      | some p =>
        if p.isEnumerable then
          createMember target k (← getFrom m source k)
      | none => pure ()

def isProtoKey : Tree → Bool
  | .node (.keyText s) _ => s == Units.ofString "__proto__"
  | _ => false

def defineProperty (m : Machine) (env : Env) (r : Ref) (t : Tree) : Run Unit := do
  match t with
  | .property key value =>
    if isProtoKey key then
      match ← m.evaluate env value with
      | .object proto => updateObject r fun o => { o with proto := some proto }
      | .null => updateObject r fun o => { o with proto := none }
      | _ => pure ()
    else
      let k ← evaluateKey m env key
      let v ← evaluateAs m env (← keyName k) value
      createMember r k v
  | .node (.shorthand x) _ => createMember r (Key.ofString x) (← readName m env x)
  | .node .method [key, f] => defineMethod m env r true key f
  | .spread e => copyMembers m r (← m.evaluate env e)
  | _ => pure ()

def evaluateObject (m : Machine) (env : Env) (ps : List Tree) : Run Value := do
  let r ← makeObject
  ps.forM (defineProperty m env r)
  return .object r

------------------------------------------------------------
-- Classes
------------------------------------------------------------

/-
  The objects from which the instances of a class and the class itself inherit.
-/
def classParents (m : Machine) (env : Env) (parent : Tree) : Run (Option Ref × Ref) := do
  match parent with
  | .node .absent _ => return (some Intrinsic.objectProto.ref, Intrinsic.functionProto.ref)
  | e =>
    match ← m.evaluate env e with
    | .null => return (none, Intrinsic.functionProto.ref)
    | .object r =>
      if ← isConstructorRef r then
        match ← getFrom m r Key.prototype with
        | .object proto => return (some proto, r)
        | .null => return (none, r)
        | _ => throwType "superclass prototype must be an object or null"
      else
        throwType "superclass must be a constructor"
    | _ => throwType "superclass must be a constructor"

/-
  The constructor of a class, which does nothing but call its parent if none is written.
-/
def classConstructor (hasParent : Bool) (source : String) :
    Tree → FunctionInfo × List Tree × List Tree
  | .function info params body => ({ info with source }, params, body)
  | _ =>
    if hasParent then
      ( ⟨.derivedConstructor, false, false, true, none, source, false⟩
      , [.node .rest [.name "args"]]
      , [.node .expression [.node .callSuper [.spread (.name "args")]]] )
    else
      (⟨.constructor, false, false, true, none, source, false⟩, [], [])

/-
  A secret method or accessor beside what is there under its key.
-/
def secretProperty (old : Option Property) (kind : FunctionKind) (f : Value) : Property :=
  let (getter, setter) := match old with
    | some ⟨.accessor g s, _, _⟩ => (g, s)
    | _ => (.undefined, .undefined)
  match kind with
  | .getter => ⟨.accessor f setter, false, false⟩
  | .setter => ⟨.accessor getter f, false, false⟩
  | _ => .fixed f

def putSecret (k : Key) (kind : FunctionKind) (f : Value) :
    List (Key × Property) → List (Key × Property)
  | [] => [(k, secretProperty none kind f)]
  | (l, p) :: rest =>
    if l == k then (l, secretProperty (some p) kind f) :: rest
    else (l, p) :: putSecret k kind f rest

/-
  What is done for a class itself after its methods are defined.
-/
inductive StaticPart where
  | field (k : Key) (value : Tree)
  | block (statements : List Tree)

/-
  The members of a class that are not simply defined: the secret methods and the fields of
  its instances, and the secret methods and other parts of the class itself.
-/
structure ClassParts where
  secrets : List (Key × Property) := []
  fields : List (Key × Tree) := []
  ownSecrets : List (Key × Property) := []
  statics : List StaticPart := []

/-
  Defines the methods of a class and gives its other parts, the last first.
-/
def defineMembers (m : Machine) (env : Env) (proto klass : Ref) :
    List Tree → ClassParts → Run ClassParts
  | [], parts => return parts
  | t :: ts, parts => do
    match t with
    | .node (.member isStatic) [.node (.keyPrivate x) _, f] =>
      let k := secretKey env x
      let (kind, v) ← makeMethod env (if isStatic then klass else proto) k f
      let parts :=
        if isStatic then { parts with ownSecrets := putSecret k kind v parts.ownSecrets }
        else { parts with secrets := putSecret k kind v parts.secrets }
      defineMembers m env proto klass ts parts
    | .node (.member isStatic) [key, f] =>
      defineMethod m env (if isStatic then klass else proto) false key f
      defineMembers m env proto klass ts parts
    | .node (.field isStatic) [key, value] =>
      let k ← evaluateKey m env key
      let parts :=
        if isStatic then { parts with statics := .field k value :: parts.statics }
        else { parts with fields := (k, value) :: parts.fields }
      defineMembers m env proto klass ts parts
    | .node .staticBlock statements =>
      defineMembers m env proto klass ts
        { parts with statics := .block statements :: parts.statics }
    | _ => defineMembers m env proto klass ts parts

/-
  Does what is left to do for a class itself.
-/
def runStatic (m : Machine) (env : Env) (klass : Ref) (part : StaticPart) : Run Unit := do
  match part with
  | .field k value =>
    let v ← onObject env (some klass) klass klass fun env => fieldValue m env k value
    defineField m klass k v
  | .block statements =>
    onObject env (some klass) klass klass fun env => do
      let inner ← enterBody env false [] statements
      let _ ← executeList m inner statements none

/-
  The secrets that the members of a class declare.
-/
def secretNames (members : List Tree) : List String :=
  (members.filterMap fun t =>
    match t with
    | .node (.member _) (.node (.keyPrivate x) _ :: _) => some (secretName x)
    | .node (.field _) (.node (.keyPrivate x) _ :: _) => some (secretName x)
    | _ => none).eraseDups

def evaluateClass
    (m : Machine)
    (env : Env)
    (name : Option String)
    (source : String)
    (parent constructor : Tree)
    (members : List Tree) :
    Run Value := do
  let env := { env with isStrict := true }
  let own : List (String × Cell) := match name with
    | some x => [(x, { value := none, isConstant := true })]
    | none => []
  let secrets : List (String × Cell) :=
    (secretNames members).map fun x => (x, { value := some (.ofString x), isConstant := true })
  let env ← enterScope env (own ++ secrets)
  let hasParent := match parent.label with
    | .absent => false
    | _ => true
  let (protoParent, classParent) ← classParents m env parent
  let proto ← allocate { proto := protoParent }
  let (info, params, body) := classConstructor hasParent source constructor
  let r ← allocate
    { proto := some classParent
      kind := .closure { info, params, body, env, home := some proto, isClass := true } }
  describeFunction r (expectedArguments params) (.ofString (name.getD ""))
  updateObject r fun o => o.put Key.prototype (.fixed (.object proto))
  hide proto Key.constructor (.object r)
  let parts ← defineMembers m env proto r members {}
  match name with
  | some x => bindFirst env x (.object r)
  | none => pure ()
  updateObject r fun o =>
    match o.kind with
    | .closure c =>
      let fields := parts.fields.reverse
      { o with kind := .closure { c with secrets := parts.secrets, fields } }
    | _ => o
  for (k, p) in parts.ownSecrets do
    addSecret r k p
  parts.statics.reverse.forM (runStatic m env r)
  return .object r

------------------------------------------------------------
-- Expressions
------------------------------------------------------------

def evaluateFunction (env : Env) (info : FunctionInfo) (params body : List Tree) :
    Run Value := do
  match info.name, info.kind with
  | some x, .normal => return .object (← makeNamedClosure env info params body x)
  | _, _ => return .object (← makeClosure env info params body .empty none)

def evaluateTree (m : Machine) (env : Env) (t : Tree) : Run Value := do
  match t with
  | .node .this _ => evaluateThis env
  | .node .null _ => return .null
  | .node (.bool b) _ => return .bool b
  | .node (.number x) _ => return .number x
  | .node (.bigint n) _ => return .bigint n
  | .node (.string s) _ => return .string s
  | .node (.regexp source flags) _ => makeRegexp (.ofString source) flags
  | .node (.template chunks) es => return .string (← evaluateTemplate m env .empty chunks es)
  | .node (.tagged site chunks) (tag :: es) =>
    let (callee, this) ← evaluateCallee m env tag
    let strings ← templateObject site chunks
    let values ← evaluateItems m env es
    m.call callee this (strings :: values)
  | .node (.name x) _ => readName m env x
  | .node .array items => return .object (← makeArrayOf (← evaluateElements m env #[] items))
  | .node .object ps => evaluateObject m env ps
  | .function info params body => evaluateFunction env info params body
  | .klass name source parent constructor members =>
    evaluateClass m env name source parent constructor members
  | .node (.unary op) [e] => evaluateUnary m env op e
  | .node (.update up before) [target] => evaluateUpdate m env up before target
  | .node (.binary op) [a, b] =>
    let x ← m.evaluate env a
    let y ← m.evaluate env b
    applyBinary m op x y
  | .node (.logical op) [a, b] =>
    let v ← m.evaluate env a
    if asksForMore op v then m.evaluate env b else return v
  | .node .conditional [test, yes, no] =>
    if (← m.evaluate env test).toBool then m.evaluate env yes else m.evaluate env no
  | .node (.assign op) [target, value] => evaluateAssign m env op target value
  | .node .comma [a, b] =>
    let _ ← m.evaluate env a
    m.evaluate env b
  | .node .paren [e] => m.evaluate env e
  | .node (.select x) [e] => getMember m (← m.evaluate env e) (Key.ofString x)
  | .node .index [e, i] =>
    let base ← m.evaluate env e
    let k ← m.evaluate env i
    if base.isNullish then
      throwType nullishMessage
    getMember m base (← toKey m k)
  | .node (.selectPrivate x) [e] => getSecret m (← m.evaluate env e) (secretKey env x)
  | .node (.selectSuper x) _ => superMember m env (Key.ofString x)
  | .node .indexSuper [i] => superMember m env (← toKey m (← m.evaluate env i))
  | .node (.testPrivate x) [e] =>
    match ← m.evaluate env e with
    | .object r => return .bool ((← getObject r).named? (secretKey env x)).isSome
    | v => refuseOperand "in" v
  | .node .call (f :: arguments) => evaluateCall m env f arguments
  | .node .callSuper arguments => evaluateSuperCall m env arguments
  | .node .callImport [e] =>
    let _ ← m.evaluate env e
    makePromise .pending
  | .node .new (f :: arguments) => evaluateNew m env f arguments
  | .node .chain (e :: links) =>
    let start ← evaluateCallee m env e
    followChain m env start links
  | .node .yield [e] =>
    match e with
    | .node .absent _ => giveValue env .undefined
    | e => giveValue env (← m.evaluate env e)
  | .node .yieldAll [e] => delegate m env (← m.evaluate env e)
  | .node .await [e] =>
    let _ ← m.evaluate env e
    throw .suspended
  | .node .newTarget _ => return env.newTarget
  | _ => raiseError .parsing "unexpected expression"

end Realm

end Devirt

import Devirt.Realm.Library.Basic

/-
  Collections, promises and errors.

  Nothing that waits for a promise is ever done, since a script is over when its last
  statement is.

  Key definitions include:
    * `constructCollection`, `callCollection`
    * `constructPromise`, `callPromise`
    * `makeErrorFor`, `errorText`
-/

namespace Devirt

namespace Realm

namespace Library

------------------------------------------------------------
-- Collections
------------------------------------------------------------

abbrev Entries := Array (Option (Value × Value))

def findEntry (es : Entries) (k : Value) : Option Nat :=
  es.findIdx? fun e =>
    match e with
    | some (x, _) => x.sameValueZero k
    | none => false

/-
  A key as it is kept: zero has no sign.
-/
def normalKey : Value → Value
  | .number x => .number (if x == 0 then 0 else x)
  | v => v

def putEntry (es : Entries) (k v : Value) : Entries :=
  match findEntry es k with
  | some i => es.setIfInBounds i (some (normalKey k, v))
  | none => es.push (some (normalKey k, v))

def updateEntries (r : Ref) (f : Entries → Entries) : Run Unit :=
  updateObject r fun o =>
    match o.kind with
    | .collection c es => { o with kind := .collection c (f es) }
    | _ => o

def isWeak : Collection → Bool
  | .weakMap | .weakSet => true
  | _ => false

def hasValues : Collection → Bool
  | .map | .weakMap => true
  | _ => false

/-
  Puts a value into a collection.
-/
def addEntry (r : Ref) (c : Collection) (k v : Value) : Run Unit := do
  let allowed := match k with
    | .object _ | .symbol _ => true
    | _ => !isWeak c
  if !allowed then
    throwType "invalid value used as a weak key"
  updateEntries r fun es => putEntry es k v

/-
  The key and the value that an entry consists of.
-/
def entryParts (m : Machine) (v : Value) : Run (List Value) := do
  match v with
  | .object _ =>
    let k ← getMember m v (.index 0)
    return [k, ← getMember m v (.index 1)]
  | _ => throwType "cannot get key and value from primitive item of `iterable`"

def constructCollection
    (m : Machine)
    (c : Collection)
    (newTarget : Ref)
    (arguments : List Value) :
    Run Value := do
  let r ← makeFor m newTarget (Intrinsic.ofCollection c) (.collection c #[])
  let a := argument arguments 0
  if !a.isNullish then
    let adder ← getFrom m r (Key.ofString (if hasValues c then "set" else "add"))
    requireCallable adder "the function that adds an entry is not callable"
    let it ← openIterator m a
    let _ ← it.forEach m fun _ v => do
      if hasValues c then
        let _ ← m.call adder (.object r) (← entryParts m v)
      else
        let _ ← m.call adder (.object r) [v]
  return .object r

def entriesOf? (r : Ref) (c : Collection) : Run (Option Entries) := do
  match (← getObject r).kind with
  | .collection d es => return if c == d then some es else none
  | _ => return none

/-
  Calls a function for every entry, those included that are added meanwhile.
-/
def forEachEntry (m : Machine) (r : Ref) (c : Collection) (f this : Value) : Run Unit :=
  repeatRun
    (fun (i : Nat) => do
      match ← entriesOf? r c with
      | some es =>
        match es[i]? with
        | some (some (k, v)) =>
          let _ ← m.call f this [v, k, .object r]
          return .inl (i + 1)
        | some none => return .inl (i + 1)
        | none => return .inr ()
      | none => return .inr ())
    0

def callCollection
    (m : Machine)
    (c : Collection)
    (f : CollectionMethod)
    (this : Value)
    (arguments : List Value) :
    Run Value := do
  let a := argument arguments 0
  match this with
  | .object r =>
    match ← entriesOf? r c with
    | some es =>
      match f with
      | .get =>
        match (findEntry es a).bind fun i => (es.getD i none) with
        | some (_, v) => return v
        | none => return .undefined
      | .set =>
        addEntry r c a (argument arguments 1)
        return this
      | .add =>
        addEntry r c a a
        return this
      | .has => return .bool (findEntry es a).isSome
      | .delete =>
        match findEntry es a with
        | some i =>
          updateEntries r fun es => es.setIfInBounds i none
          return .bool true
        | none => return .bool false
      | .clear =>
        updateEntries r fun es => es.map fun _ => none
        return .undefined
      | .size => return .ofNat (es.filter Option.isSome).size
      | .forEach =>
        requireCallable a "callback must be callable"
        forEachEntry m r c a (argument arguments 1)
        return .undefined
      | .keys => makeIterator (.collection c (some r) 0 .keys)
      | .values => makeIterator (.collection c (some r) 0 .values)
      | .entries => makeIterator (.collection c (some r) 0 .entries)
    | none => throwType "'this' is not a collection of the right kind"
  | _ => throwType "'this' is not a collection of the right kind"

/-
  The values that an object gives, gathered by the key that a function gives.
-/
def groupEntries (m : Machine) (items f : Value) : Run Value := do
  requireValue items
  requireCallable f "callback must be callable"
  let r ← allocate { proto := some Intrinsic.mapProto.ref, kind := .collection .map #[] }
  let it ← openIterator m items
  let _ ← it.forEach m fun i v => do
    let k ← m.call f .undefined [v, .ofNat i]
    let es := (← entriesOf? r .map).getD #[]
    match (findEntry es k).bind fun j => es.getD j none with
    | some (_, .object list) =>
      let n ← lengthOf m list
      createMember list (.ofNat n) v
    | _ =>
      let list ← makeArray [v]
      updateEntries r fun es => putEntry es k list
  return .object r

------------------------------------------------------------
-- Promises
------------------------------------------------------------

/-
  A function that settles a promise, which it finds among its fixed arguments.
-/
def settler (promise : Ref) (isRejecting : Bool) : Run Value := do
  let f ← allocate
    { proto := some Intrinsic.functionProto.ref, kind := .native (.promise .settle) }
  describeFunction f 1 .empty
  let r ← allocate
    { proto := some Intrinsic.functionProto.ref
      kind := .bound f .undefined [.object promise, .bool isRejecting] }
  describeFunction r 1 .empty
  return .object r

/-
  Settles a promise that is not settled yet.
-/
def settle (m : Machine) (arguments : List Value) : Run Value := do
  let v := argument arguments 2
  match argument arguments 0 with
  | .object r =>
    match (← getObject r).kind with
    | .promise .pending =>
      let s : Settlement ←
        if (argument arguments 1).toBool then
          pure (.rejected v)
        else if v.ref? == some r then do
          pure (.rejected (.object (← makeError .type "cannot resolve promise to itself")))
        else
          resolution m v
      updateObject r fun o => { o with kind := .promise s }
    | _ => pure ()
  | _ => pure ()
  return .undefined

def constructPromise (m : Machine) (newTarget : Ref) (arguments : List Value) : Run Value := do
  let f := argument arguments 0
  requireCallable f "Promise executor is not callable"
  let r ← makeFor m newTarget .promiseProto (.promise .pending)
  let resolve ← settler r false
  let reject ← settler r true
  match ← outcome (m.call f .undefined [resolve, reject]) with
  | .ok _ => pure ()
  | .error (.thrown v) => let _ ← settle m [.object r, .bool true, v]
  | .error e => throw e
  return .object r

def isPromise (v : Value) : Run Bool := do
  match v with
  | .object r =>
    match (← getObject r).kind with
    | .promise _ => return true
    | _ => return false
  | _ => return false

/-
  The promise that several others together make.  It is settled at once only if there are
  no others.
-/
def combine (m : Machine) (source : Value) (none : Run Settlement) : Run Value := do
  match ← outcome (collect m source) with
  | .ok [] => makePromise (← none)
  | .ok _ => makePromise .pending
  | .error (.thrown v) => makePromise (.rejected v)
  | .error e => throw e

def callPromise (m : Machine) (f : PromiseFunction) (this : Value) (arguments : List Value) :
    Run Value := do
  let a := argument arguments 0
  match f with
  | .resolve =>
    if !this.isObject then
      throwType "Promise.resolve() called on a non-object"
    if ← isPromise a then return a else makePromise (← resolution m a)
  | .reject => makePromise (.rejected a)
  | .settle => settle m arguments
  | .all | .allSettled => combine m a (do return .fulfilled (← makeArray []))
  | .any =>
    combine m a do return .rejected (.object (← makeError .error "no promise in the list"))
  | .race => combine m a (pure .pending)
  | .andThen | .orElse | .atLast =>
    if ← isPromise this then
      makePromise .pending
    else
      throwType "Promise.prototype.then: this is not a promise"

------------------------------------------------------------
-- Errors
------------------------------------------------------------

def makeErrorFor (m : Machine) (k : ErrorKind) (newTarget : Option Ref) (arguments : List Value) :
    Run Value := do
  let r ← match newTarget with
    | some t => makeFor m t (Intrinsic.ofError k) .error
    | none => allocate { proto := some (Intrinsic.ofError k).ref, kind := .error }
  let message := argument arguments 0
  if !message.isUndefined then
    hide r Key.message (.string (← toUnits m message))
  match argument arguments 1 with
  | .object options =>
    if ← hasMember options (Key.ofString "cause") then
      hide r (Key.ofString "cause") (← getFrom m options (Key.ofString "cause"))
  | _ => pure ()
  return .object r

/-
  The name and the message of an error.
-/
def errorText (m : Machine) (v : Value) : Run Value := do
  match v with
  | .object r =>
    let name ← match ← getFrom m r Key.name with
      | .undefined => pure (Units.ofString "Error")
      | name => toUnits m name
    let message ← match ← getFrom m r Key.message with
      | .undefined => pure Units.empty
      | message => toUnits m message
    if name.isEmpty then return .string message
    else if message.isEmpty then return .string name
    else return .string (name ++ Units.ofString ": " ++ message)
  | _ => throwType "'this' is not an Object"

end Library

end Realm

end Devirt

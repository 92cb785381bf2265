import Devirt.Realm.Library.Basic

/-
  The functions about objects and functions.

  Key definitions include:
    * `callObject`, the functions of `Object`
    * `callObjectMethod`, the methods of all objects
    * `callFunctionMethod`, the methods of all functions
-/

namespace Devirt

namespace Realm

namespace Library

------------------------------------------------------------
-- Descriptors
------------------------------------------------------------

/-
  A part of a descriptor, if the object that describes a member has it.
-/
def describedPart (m : Machine) (r : Ref) (name : String) : Run (Option Value) := do
  let k := Key.ofString name
  if ← hasMember r k then
    return some (← getFrom m r k)
  else
    return none

/-
  Reads the object that describes a member.
-/
def toDescriptor (m : Machine) (v : Value) : Run Descriptor := do
  match v with
  | .object r =>
    let isEnumerable ← describedPart m r "enumerable"
    let isConfigurable ← describedPart m r "configurable"
    let value ← describedPart m r "value"
    let isWritable ← describedPart m r "writable"
    let getter ← describedPart m r "get"
    let setter ← describedPart m r "set"
    for f in [getter, setter] do
      match f with
      | some f =>
        if !f.isUndefined then
          requireCallable f "accessor must be callable or undefined"
      | none => pure ()
    if (getter.isSome || setter.isSome) && (value.isSome || isWritable.isSome) then
      throwType ("Invalid property descriptor. Cannot both specify accessors "
        ++ "and a value or writable attribute")
    let described : Descriptor :=
      { value
        isWritable := isWritable.map Value.toBool
        getter
        setter
        isEnumerable := isEnumerable.map Value.toBool
        isConfigurable := isConfigurable.map Value.toBool }
    return described
  | _ => throwType "property descriptor must be an object"

/-
  The object that describes a member.
-/
def ofDescriptor (p : Property) : Run Value := do
  let r ← makeObject
  match p.slot with
  | .data v w =>
    createMember r Key.value v
    createMember r (Key.ofString "writable") (.bool w)
  | .accessor g s =>
    createMember r (Key.ofString "get") g
    createMember r (Key.ofString "set") s
  createMember r (Key.ofString "enumerable") (.bool p.isEnumerable)
  createMember r (Key.ofString "configurable") (.bool p.isConfigurable)
  return .object r

------------------------------------------------------------
-- Lists of Members
------------------------------------------------------------

/-
  The names of the members that are listed.
-/
def listedKeys (r : Ref) : Run (List Key) := do
  let o ← getObject r
  return o.keys.filter fun k => !k.isSymbol && (o.own? k).any (·.isEnumerable)

/-
  The members that are listed, as their names, values or both.
-/
def listMembers (m : Machine) (listing : Listing) (v : Value) : Run Value := do
  let r ← toObject v
  let mut items := #[]
  for k in ← listedKeys r do
    match listing with
    | .keys => items := items.push (some k.toValue)
    | .values => items := items.push (some (← getFrom m r k))
    | .entries => items := items.push (some (← makePair k.toValue (← getFrom m r k)))
  return .object (← makeArrayOf items)

/-
  Copies the members that are listed, symbols included, from one object to another.
-/
def assignFrom (m : Machine) (target : Ref) (v : Value) : Run Unit := do
  if !v.isNullish then
    let source ← toObject v
    for k in (← getObject source).keys do
      match (← getObject source).own? k with
      | some p =>
        if p.isEnumerable then
          putMember m target k (← getFrom m source k)
      | none => pure ()

/-
  Defines the members that the members of an object describe.
-/
def defineAll (m : Machine) (r : Ref) (v : Value) : Run Unit := do
  let source ← toObject v
  let mut found := #[]
  for k in (← getObject source).keys do
    match (← getObject source).own? k with
    | some p =>
      if p.isEnumerable then
        found := found.push (k, ← toDescriptor m (← getFrom m source k))
    | none => pure ()
  for (k, d) in found do
    defineOrThrow m r k d

------------------------------------------------------------
-- Integrity
------------------------------------------------------------

/-
  Forbids new members, deletions and, if asked, changes of values.
-/
def restrict (r : Ref) (isFrozen : Bool) : Run Unit := do
  updateObject r fun o => { o with isExtensible := false }
  let o ← getObject r
  for k in o.keys do
    match o.own? k with
    | some p =>
      let isWritable := match p.slot with
        | .data _ _ => if isFrozen then some false else none
        | .accessor _ _ => none
      let _ ← defineOwn r k { isConfigurable := some false, isWritable }
    | none => pure ()

def isRestricted (r : Ref) (isFrozen : Bool) : Run Bool := do
  let o ← getObject r
  let fixed := o.keys.all fun k =>
    match o.own? k with
    | some ⟨.data _ isWritable, _, isConfigurable⟩ =>
      !isConfigurable && !(isFrozen && isWritable)
    | some p => !p.isConfigurable
    | none => true
  return !o.isExtensible && fixed

/-
  Lets an object inherit from another, unless it would inherit from itself.
-/
def setProto (r : Ref) (proto : Option Ref) : Run Bool := do
  let o ← getObject r
  if o.proto == proto then
    return true
  else if !o.isExtensible then
    return false
  else
    match proto with
    | some p =>
      if p == r || (← inherits p r) then
        return false
      else
        updateObject r fun o => { o with proto }
        return true
    | none =>
      updateObject r fun o => { o with proto }
      return true

------------------------------------------------------------
-- The Functions of Object
------------------------------------------------------------

def fromEntries (m : Machine) (v : Value) : Run Value := do
  requireValue v
  let r ← makeObject
  let it ← openIterator m v
  let _ ← it.forEach m fun _ e => do
    match e with
    | .object _ =>
      let k ← getMember m e (.index 0)
      let x ← getMember m e (.index 1)
      createMember r (← toKey m k) x
    | _ => throwType "iterator value is not an object"
  return .object r

/-
  The elements of a collection, gathered by the key that a function gives.
-/
def groupBy (m : Machine) (items f : Value) : Run Value := do
  requireValue items
  requireCallable f "callback must be callable"
  let r ← allocate { proto := none }
  let it ← openIterator m items
  let _ ← it.forEach m fun i v => do
    let k ← toKey m (← m.call f .undefined [v, .ofNat i])
    match ← getFrom m r k with
    | .object list =>
      let n ← lengthOf m list
      createMember list (.ofNat n) v
    | _ => createMember r k (← makeArray [v])
  return .object r

def callObject (m : Machine) (f : ObjectFunction) (arguments : List Value) : Run Value := do
  let a := argument arguments 0
  let b := argument arguments 1
  match f with
  | .assign =>
    let r ← toObject a
    arguments.tail.forM (assignFrom m r)
    return .object r
  | .create =>
    let proto ← match a with
      | .object r => pure (some r)
      | .null => pure none
      | _ => throwType "Object prototype may only be an Object or null: "
    let r ← allocate { proto }
    if !b.isUndefined then
      defineAll m r b
    return .object r
  | .defineProperties =>
    match a with
    | .object r =>
      defineAll m r b
      return a
    | _ => throwType "Expected an object"
  | .defineProperty =>
    match a with
    | .object r =>
      let k ← toKey m b
      defineOrThrow m r k (← toDescriptor m (argument arguments 2))
      return a
    | _ => throwType "Object.defineProperty called on non-object"
  | .entries => listMembers m .entries a
  | .values => listMembers m .values a
  | .keys => listMembers m .keys a
  | .fromEntries => fromEntries m a
  | .getDescriptor =>
    let r ← toObject a
    let k ← toKey m b
    match (← getObject r).own? k with
    | some p => ofDescriptor p
    | none => return .undefined
  | .getDescriptors =>
    let r ← toObject a
    let result ← makeObject
    let o ← getObject r
    for k in o.keys do
      match o.own? k with
      | some p => createMember result k (← ofDescriptor p)
      | none => pure ()
    return .object result
  | .getNames =>
    let r ← toObject a
    makeArray (((← getObject r).keys.filter fun k => !k.isSymbol).map Key.toValue)
  | .getSymbols =>
    let r ← toObject a
    makeArray (((← getObject r).keys.filter Key.isSymbol).map Key.toValue)
  | .getPrototype =>
    let r ← toObject a
    match (← getObject r).proto with
    | some p => return .object p
    | none => return .null
  | .setPrototype =>
    requireValue a
    let proto ← match b with
      | .object r => pure (some r)
      | .null => pure none
      | _ => throwType "expected an object or null"
    match a with
    | .object r =>
      if ← setProto r proto then
        return a
      else
        throwType "can't set the prototype of this object"
    | _ => return a
  | .groupBy => groupBy m a b
  | .hasOwn =>
    let r ← toObject a
    let k ← toKey m b
    return .bool ((← getObject r).own? k).isSome
  | .same => return .bool (a.sameValue b)
  | .freeze =>
    match a with
    | .object r => restrict r true
    | _ => pure ()
    return a
  | .close =>
    match a with
    | .object r => restrict r false
    | _ => pure ()
    return a
  | .preventExtensions =>
    match a with
    | .object r => updateObject r fun o => { o with isExtensible := false }
    | _ => pure ()
    return a
  | .isExtensible =>
    match a with
    | .object r => return .bool (← getObject r).isExtensible
    | _ => return .bool false
  | .isFrozen =>
    match a with
    | .object r => return .bool (← isRestricted r true)
    | _ => return .bool true
  | .isSealed =>
    match a with
    | .object r => return .bool (← isRestricted r false)
    | _ => return .bool true

------------------------------------------------------------
-- The Methods of Objects
------------------------------------------------------------

/-
  The name of the kind of an object.
-/
def kindName (o : Object) : String :=
  match o.kind with
  | .array _ _ => "Array"
  | .closure _ | .native _ | .bound _ _ _ => "Function"
  | .error => "Error"
  | .arguments _ => "Arguments"
  | .wrapper (.bool _) => "Boolean"
  | .wrapper (.number _) => "Number"
  | .wrapper (.string _) => "String"
  | .regexp _ _ _ => "RegExp"
  | _ => "Object"

/-
  The text of an object that says only of what kind it is.
-/
def kindText (m : Machine) (v : Value) : Run Value := do
  let surround := fun (s : Units) =>
    Value.string (Units.ofString "[object " ++ s ++ Units.ofString "]")
  match v with
  | .undefined => return surround (.ofString "Undefined")
  | .null => return surround (.ofString "Null")
  | v =>
    let r ← toObject v
    let name := kindName (← getObject r)
    match ← getFrom m r WellKnown.toStringTag.key with
    | .string s => return surround s
    | _ => return surround (.ofString name)

def callObjectMethod (m : Machine) (f : ObjectMethod) (this : Value) (arguments : List Value) :
    Run Value := do
  let a := argument arguments 0
  match f with
  | .hasOwnProperty =>
    let k ← toKey m a
    let r ← toObject this
    return .bool ((← getObject r).own? k).isSome
  | .isPrototypeOf =>
    match a with
    | .object r =>
      let self ← toObject this
      return .bool (← inherits r self)
    | _ => return .bool false
  | .propertyIsEnumerable =>
    let k ← toKey m a
    let r ← toObject this
    return .bool (((← getObject r).own? k).any (·.isEnumerable))
  | .toLocaleString =>
    match ← getMethod m this (Key.ofString "toString") with
    | some f => m.call f this []
    | none => throwType "not a callable function"
  | .toText => kindText m this
  | .valueOf => return .object (← toObject this)

------------------------------------------------------------
-- The Methods of Functions
------------------------------------------------------------

/-
  The text of a function: as it was written, or a sign that it was not written by a
  script.
-/
def functionText (m : Machine) (v : Value) : Run Value := do
  match v with
  | .object r =>
    match (← getObject r).kind with
    | .closure c => return .ofString c.info.source
    | .native _ =>
      let name ← match ← getFrom m r Key.name with
        | .undefined => pure Units.empty
        | name => toUnits m name
      return .string
        (Units.ofString "function " ++ name ++ Units.ofString "() { [native code] }")
    | .bound _ _ _ => return .ofString "function () { [native code] }"
    | _ => throwType "Not a function"
  | _ => throwType "Not a function"

/-
  Makes a function with a fixed object to work on and fixed first arguments.
-/
def bindFunction (m : Machine) (this : Value) (arguments : List Value) : Run Value := do
  match this with
  | .object target =>
    let o ← getObject target
    let bound := arguments.tail
    let r ← allocate
      { proto := o.proto, kind := .bound target (argument arguments 0) bound }
    let length ← match (← getObject target).own? Key.length with
      | some _ => do
        match ← getFrom m target Key.length with
        | .number x => pure (clampedWhole x - bound.length).toNat
        | _ => pure 0
      | none => pure 0
    let name ← match ← getFrom m target Key.name with
      | .string s => pure s
      | _ => pure Units.empty
    describeFunction r length (Units.ofString "bound " ++ name)
    return .object r
  | _ => throwType "cannot bind `this` without a `[[Call]]` internal method"

/-
  The arguments that an object gives as a list.
-/
def argumentList (m : Machine) (v : Value) : Run (List Value) := do
  match v with
  | .undefined | .null => return []
  | .object r => elementsOf m r
  | _ => throwType "cannot create list from a non-object value"

def callFunctionMethod (m : Machine) (f : FunctionMethod) (this : Value) (arguments : List Value) :
    Run Value := do
  match f with
  | .apply =>
    if !(← isCallable this) then
      throwType "function is not callable"
    m.call this (argument arguments 0) (← argumentList m (argument arguments 1))
  | .bind =>
    if !(← isCallable this) then
      throwType "cannot bind `this` without a `[[Call]]` internal method"
    bindFunction m this arguments
  | .call =>
    if !(← isCallable this) then
      throwType "function is not callable"
    m.call this (argument arguments 0) arguments.tail
  | .toText => functionText m this
  | .hasInstance => return .bool (← isInstance m (argument arguments 0) this)

end Library

end Realm

end Devirt

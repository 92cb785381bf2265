import Devirt.Realm.Call

/-
  The world in which a realm begins.

  Key definitions include:
    * `World.initial`
-/

namespace Devirt

namespace Realm

open Library

------------------------------------------------------------
-- Members
------------------------------------------------------------

def makeNative (f : Native) (name : String) (length : Nat) : Run Ref := do
  let r ← allocate { proto := some Intrinsic.functionProto.ref, kind := .native f }
  describeFunction r length (.ofString name)
  return r

/-
  Gives an object a method.
-/
def addMethod (holder : Ref) (f : Native) (name : String) (length : Nat) : Run Unit := do
  hide holder (Key.ofString name) (.object (← makeNative f name length))

/-
  Gives an object the methods of a table.
-/
def addMethods (holder : Ref) (table : List (α × String × Nat)) (f : α → Native) : Run Unit :=
  table.forM fun (x, name, length) => addMethod holder (f x) name length

/-
  Gives an object a method under a symbol.
-/
def addSymbolMethod (holder : Ref) (s : WellKnown) (f : Native) (name : String) : Run Unit := do
  hide holder s.key (.object (← makeNative f name 0))

/-
  Gives an object a member that a function computes.
-/
def addGetter (holder : Ref) (f : Native) (name : String) : Run Unit := do
  let getter ← makeNative f ("get " ++ name) 0
  updateObject holder fun o =>
    o.put (Key.ofString name) ⟨.accessor (.object getter) .undefined, false, true⟩

/-
  Gives a constructor the member that says with what derived objects are made: itself.
-/
def addSpecies (maker : Ref) : Run Unit := do
  let getter ← makeNative .itself "get [Symbol.species]" 0
  updateObject maker fun o =>
    o.put WellKnown.species.key ⟨.accessor (.object getter) .undefined, false, true⟩

def addTag (holder : Ref) (name : String) : Run Unit :=
  updateObject holder fun o => o.put WellKnown.toStringTag.key (.readOnly (.ofString name))

def addGlobal (name : String) (v : Value) : Run Unit :=
  hide Intrinsic.global.ref (Key.ofString name) v

/-
  Makes a constructor known, with the object from which what it makes inherits.
-/
def addMaker (maker : Maker) (name : String) (length : Nat) (proto : Intrinsic) : Run Ref := do
  let r ← makeNative (.make maker) name length
  updateObject r fun o => o.put Key.prototype (.fixed (.object proto.ref))
  hide proto.ref Key.constructor (.object r)
  addGlobal name (.object r)
  return r

/-
  A member of an object under another name as well.
-/
def addAlias (holder : Ref) (source : String) (target : Key) : Run Unit := do
  match (← getObject holder).own? (Key.ofString source) with
  | some p => updateObject holder fun o => o.put target p
  | none => pure ()

/-
  A global function as a member of another object too.
-/
def shareGlobal (holder : Ref) (name : String) : Run Unit := do
  match (← getObject Intrinsic.global.ref).own? (Key.ofString name) with
  | some p => updateObject holder fun o => o.put (Key.ofString name) p
  | none => pure ()

------------------------------------------------------------
-- The Parts of the Library
------------------------------------------------------------

def setupObjects : Run Unit := do
  let object ← addMaker .object "Object" 1 .objectProto
  addMethods object ObjectFunction.table .object
  addMethods Intrinsic.objectProto.ref ObjectMethod.table .objectMethod
  let _ ← addMaker .function "Function" 1 .functionProto
  let functions := Intrinsic.functionProto.ref
  addMethods functions FunctionMethod.table .function
  let test ← makeNative (.function .hasInstance) "[Symbol.hasInstance]" 1
  updateObject functions fun o => o.put WellKnown.hasInstance.key (.fixed (.object test))
  describeFunction functions 0 .empty
  let refusal := Intrinsic.refusal.ref
  updateObject refusal fun o =>
    { (o.put Key.length (.fixed (.number 0))).put Key.name (.fixed (.ofString "")) with
      isExtensible := false }
  for name in ["caller", "arguments"] do
    updateObject functions fun o =>
      o.put (Key.ofString name) ⟨.accessor (.object refusal) (.object refusal), false, true⟩

/-
  The methods of lists that do not become names when a list is made a scope.
-/
def keptNames : List String :=
  [ "at", "copyWithin", "entries", "fill", "find", "findIndex", "findLast", "findLastIndex"
  , "flat", "flatMap", "includes", "keys", "toReversed", "toSorted", "toSpliced", "values" ]

def setupArrays : Run Unit := do
  let array ← addMaker .array "Array" 1 .arrayProto
  addMethods array ArrayFunction.table .array
  addSpecies array
  addMethods Intrinsic.arrayProto.ref ArrayMethod.table .arrayMethod
  addAlias Intrinsic.arrayProto.ref "values" WellKnown.iterator.key
  let kept ← allocate { proto := none }
  for name in keptNames do
    createMember kept (Key.ofString name) (.bool true)
  updateObject Intrinsic.arrayProto.ref fun o =>
    o.put WellKnown.unscopables.key (.readOnly (.object kept))

def setupStrings : Run Unit := do
  let string ← addMaker .string "String" 1 .stringProto
  addMethods string StringFunction.table .string
  addMethods Intrinsic.stringProto.ref StringMethod.table .stringMethod
  addSymbolMethod Intrinsic.stringProto.ref .iterator (.stringMethod .iterate) "[Symbol.iterator]"

def numberConstants : List (String × Float) :=
  [ ("EPSILON", Float.ofBits 0x3CB0000000000000)
  , ("MAX_SAFE_INTEGER", 9007199254740991)
  , ("MIN_SAFE_INTEGER", -9007199254740991)
  , ("MAX_VALUE", Float.ofBits 0x7FEFFFFFFFFFFFFF)
  , ("MIN_VALUE", Float.ofBits 1)
  , ("NEGATIVE_INFINITY", -infinity)
  , ("POSITIVE_INFINITY", infinity)
  , ("NaN", nan) ]

def mathConstants : List (String × Float) :=
  [ ("E", 2.718281828459045), ("LN10", 2.302585092994046), ("LN2", 0.6931471805599453)
  , ("LOG10E", 0.4342944819032518), ("LOG2E", 1.4426950408889634), ("PI", 3.141592653589793)
  , ("SQRT1_2", 0.7071067811865476), ("SQRT2", 1.4142135623730951) ]

def addConstants (holder : Ref) (constants : List (String × Float)) : Run Unit :=
  constants.forM fun (name, x) =>
    updateObject holder fun o => o.put (Key.ofString name) (.fixed (.number x))

def setupNumbers : Run Unit := do
  let number ← addMaker .number "Number" 1 .numberProto
  addConstants number numberConstants
  addMethods number NumberFunction.table .number
  shareGlobal number "parseFloat"
  shareGlobal number "parseInt"
  addMethods Intrinsic.numberProto.ref NumberMethod.table .numberMethod
  let _ ← addMaker .boolean "Boolean" 1 .booleanProto
  addMethod Intrinsic.booleanProto.ref .booleanToText "toString" 0
  addMethod Intrinsic.booleanProto.ref .booleanValueOf "valueOf" 0
  let bigint ← addMaker .bigint "BigInt" 1 .bigintProto
  addMethod bigint (.bigint .asIntN) "asIntN" 2
  addMethod bigint (.bigint .asUintN) "asUintN" 2
  addMethod Intrinsic.bigintProto.ref (.bigint .toText) "toString" 0
  addMethod Intrinsic.bigintProto.ref (.bigint .valueOf) "valueOf" 0
  addTag Intrinsic.bigintProto.ref "BigInt"
  let math ← makeObject
  addConstants math mathConstants
  addMethods math MathFunction.table .math
  addTag math "Math"
  addGlobal "Math" (.object math)

def setupSymbols : Run Unit := do
  let symbol ← addMaker .symbol "Symbol" 0 .symbolProto
  for (name, id) in WellKnown.names.zipIdx do
    updateObject symbol fun o => o.put (Key.ofString name) (.fixed (.symbol id))
  addMethod symbol (.symbol .forKey) "for" 1
  addMethod symbol (.symbol .keyFor) "keyFor" 1
  addMethod Intrinsic.symbolProto.ref (.symbol .toText) "toString" 0
  addMethod Intrinsic.symbolProto.ref (.symbol .valueOf) "valueOf" 0
  addGetter Intrinsic.symbolProto.ref (.symbol .description) "description"
  addSymbolMethod Intrinsic.symbolProto.ref .toPrimitive (.symbol .valueOf) "[Symbol.toPrimitive]"
  addTag Intrinsic.symbolProto.ref "Symbol"

def setupErrors : Run Unit := do
  let error ← addMaker (.error .error) "Error" 1 .errorProto
  addMethod Intrinsic.errorProto.ref .errorToText "toString" 0
  for k in ErrorKind.all do
    if k != .error then
      let r ← addMaker (.error k) k.name 1 (Intrinsic.ofError k)
      updateObject r fun o => { o with proto := some error }
  for k in ErrorKind.all do
    hide (Intrinsic.ofError k).ref Key.name (.ofString k.name)
    hide (Intrinsic.ofError k).ref Key.message (.ofString "")

/-
  The methods of regular expressions through which texts use them.
-/
def regexpSymbols : List (RegexpMethod × WellKnown × String × Nat) :=
  [ (.matches, .matches, "[Symbol.match]", 1), (.matchAll, .matchAll, "[Symbol.matchAll]", 1)
  , (.replace, .replace, "[Symbol.replace]", 2), (.search, .search, "[Symbol.search]", 1)
  , (.split, .split, "[Symbol.split]", 2) ]

def setupRegexps : Run Unit := do
  let regexp ← addMaker .regexp "RegExp" 2 .regexpProto
  addSpecies regexp
  let proto := Intrinsic.regexpProto.ref
  addMethod proto (.regexp .exec) "exec" 1
  addMethod proto (.regexp .test) "test" 1
  addMethod proto (.regexp .toText) "toString" 0
  addGetter proto (.regexp .source) "source"
  addGetter proto (.regexp .flags) "flags"
  for (letter, name) in flagGetters do
    addGetter proto (.regexp (.flag letter)) name
  for (f, k, name, length) in regexpSymbols do
    hide proto k.key (.object (← makeNative (.regexp f) name length))

def weakMethods (c : Collection) : List (CollectionMethod × String × Nat) :=
  match c with
  | .map | .weakMap =>
    [(.get, "get", 1), (.set, "set", 2), (.has, "has", 1), (.delete, "delete", 1)]
  | .set | .weakSet => [(.add, "add", 1), (.has, "has", 1), (.delete, "delete", 1)]

def strongMethods : List (CollectionMethod × String × Nat) :=
  [ (.clear, "clear", 0), (.forEach, "forEach", 1), (.keys, "keys", 0), (.values, "values", 0)
  , (.entries, "entries", 0) ]

def setupCollections : Run Unit := do
  let kinds : List (Collection × String) :=
    [(.map, "Map"), (.set, "Set"), (.weakMap, "WeakMap"), (.weakSet, "WeakSet")]
  for (c, name) in kinds do
    let proto := Intrinsic.ofCollection c
    let maker ← addMaker (.collection c) name 0 proto
    addMethods proto.ref (weakMethods c) (.collection c)
    if c == .map then
      addMethod maker .mapGroupBy "groupBy" 2
    if !isWeak c then
      addSpecies maker
      addMethods proto.ref strongMethods (.collection c)
      addGetter proto.ref (.collection c .size) "size"
      addAlias proto.ref (if hasValues c then "entries" else "values") WellKnown.iterator.key
    addTag proto.ref name

def promiseMethods : List (PromiseFunction × String × Nat) :=
  [(.andThen, "then", 2), (.orElse, "catch", 1), (.atLast, "finally", 1)]

def promiseFunctions : List (PromiseFunction × String × Nat) :=
  [ (.resolve, "resolve", 1), (.reject, "reject", 1), (.all, "all", 1)
  , (.allSettled, "allSettled", 1), (.any, "any", 1), (.race, "race", 1) ]

def setupRest : Run Unit := do
  let promise ← addMaker .promise "Promise" 1 .promiseProto
  addSpecies promise
  addMethods promise promiseFunctions .promise
  addMethods Intrinsic.promiseProto.ref promiseMethods .promise
  addTag Intrinsic.promiseProto.ref "Promise"
  let json ← makeObject
  addMethod json (.json .parse) "parse" 2
  addMethod json (.json .stringify) "stringify" 3
  addTag json "JSON"
  addGlobal "JSON" (.object json)

/-
  Lets the functions of a kind know from what the objects inherit that they make.
-/
def addFunctionKind (functions : Intrinsic) (name : String) (made : Option Intrinsic) :
    Run Unit := do
  addTag functions.ref name
  match made with
  | some i =>
    updateObject functions.ref fun o => o.put Key.prototype (.readOnly (.object i.ref))
    updateObject i.ref fun o => o.put Key.constructor (.readOnly (.object functions.ref))
  | none => pure ()

def setupIterators : Run Unit := do
  addSymbolMethod Intrinsic.iteratorProto.ref .iterator .itself "[Symbol.iterator]"
  addSymbolMethod Intrinsic.asyncIteratorProto.ref .asyncIterator .itself "[Symbol.asyncIterator]"
  for k in IteratorKind.all do
    addMethod (Intrinsic.ofIterator k).ref (.iteratorNext k) "next" 0
    addTag (Intrinsic.ofIterator k).ref k.tag
  addMethods Intrinsic.generatorProto.ref GeneratorMethod.table .generator
  addTag Intrinsic.generatorProto.ref "Generator"
  addMethods Intrinsic.asyncGeneratorProto.ref GeneratorMethod.table .asyncGenerator
  addTag Intrinsic.asyncGeneratorProto.ref "AsyncGenerator"
  addFunctionKind .generatorFunctionProto "GeneratorFunction" (some .generatorProto)
  addFunctionKind .asyncFunctionProto "AsyncFunction" none
  addFunctionKind .asyncGeneratorFunctionProto "AsyncGeneratorFunction"
    (some .asyncGeneratorProto)

/-
  Objects of the language that no script gets to see, since they are taken away before
  the first one runs.
-/
def hiddenGlobals : List String :=
  [ "AggregateError", "ArrayBuffer", "Atomics", "BigInt64Array", "BigUint64Array", "DataView"
  , "Date", "FinalizationRegistry", "Float32Array", "Float64Array", "Int16Array", "Int32Array"
  , "Int8Array", "Proxy", "Reflect", "SharedArrayBuffer", "Uint16Array", "Uint32Array"
  , "Uint8Array", "Uint8ClampedArray", "WeakRef" ]

def setupGlobals : Run Unit := do
  let fixed : List (String × Value) :=
    [("NaN", .number nan), ("Infinity", .number infinity), ("undefined", .undefined)]
  for (name, v) in fixed do
    updateObject Intrinsic.global.ref fun o => o.put (Key.ofString name) (.fixed v)
  addGlobal "globalThis" (.object Intrinsic.global.ref)
  addMethods Intrinsic.global.ref GlobalFunction.table .global
  for name in hiddenGlobals do
    addGlobal name (.object (← makeNative .nothing name 0))

------------------------------------------------------------
-- The World
------------------------------------------------------------

/-
  The initial objects before they get their members.
-/
def bareIntrinsic (i : Intrinsic) : Object :=
  let inheriting := fun (parent : Intrinsic) (kind : Kind) =>
    ({ proto := some parent.ref, kind } : Object)
  match i with
  | .objectProto => { proto := none }
  | .functionProto => inheriting .objectProto (.native .nothing)
  | .arrayProto => inheriting .objectProto (.array 0 true)
  | .stringProto => inheriting .objectProto (.wrapper (.string .empty))
  | .numberProto => inheriting .objectProto (.wrapper (.number 0))
  | .booleanProto => inheriting .objectProto (.wrapper (.bool false))
  | .evalErrorProto | .rangeErrorProto | .referenceErrorProto | .syntaxErrorProto
  | .typeErrorProto | .uriErrorProto => inheriting .errorProto .ordinary
  | .generatorFunctionProto | .asyncFunctionProto | .asyncGeneratorFunctionProto =>
    inheriting .functionProto .ordinary
  | .arrayIteratorProto | .stringIteratorProto | .mapIteratorProto | .setIteratorProto
  | .matchIteratorProto | .generatorProto => inheriting .iteratorProto .ordinary
  | .asyncGeneratorProto => inheriting .asyncIteratorProto .ordinary
  | .refusal => inheriting .functionProto (.native .refuse)
  | _ => inheriting .objectProto .ordinary

def setup : Run Unit := do
  setupGlobals
  setupObjects
  setupArrays
  setupStrings
  setupNumbers
  setupSymbols
  setupErrors
  setupRegexps
  setupCollections
  setupRest
  setupIterators

/-
  The steps that matching may take in all.
-/
def matchingPatience : Nat := 2000000

/-
  A world with nothing but bare objects.
-/
def World.bare (limits : Limits) : World :=
  { objects := (Intrinsic.all.map bareIntrinsic).toArray
    cells := #[{ value := some (.object Intrinsic.global.ref) }]
    symbols := (WellKnown.names.map fun s => some (.ofString ("Symbol." ++ s))).toArray
    registry := []
    lexicals := []
    limits
    depth := 1
    rounds := 0
    converting := []
    templates := []
    patience := matchingPatience }

/-
  The world in which a realm begins.
-/
def World.initial (limits : Limits) : World :=
  match setup (World.bare limits) with
  | .ok _ w => w
  | .error _ w => w
  | .ask _ w _ => w

end Realm

end Devirt

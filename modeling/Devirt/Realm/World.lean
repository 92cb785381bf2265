import Devirt.Realm.Native
import Devirt.Realm.Value
import Devirt.Script.Regexp.Basic
import Devirt.Script.Tree

/-
  The world of a realm: its objects, variables and symbols.

  Key definitions include:
    * `Env`, `Cell`
    * `Object`, `World`
    * `Intrinsic`, the objects every realm begins with
-/

namespace Devirt

namespace Realm

open Script (Tree FunctionInfo)

------------------------------------------------------------
-- Scopes
------------------------------------------------------------

/-
  The names of a scope, each with the number of its variable, or an object whose members
  are names.
-/
inductive Frame where
  | names (bindings : List (String × Nat))
  | object (r : Ref)
  deriving Inhabited

/-
  What the code of a function can refer to.  Names that no frame has are global.
-/
structure Env where
  frames : List Frame
  /- the variable that holds the object the code works on -/
  thisCell : Nat
  callee : Option Ref
  newTarget : Value
  /- the object whose parent holds inherited members -/
  home : Option Ref
  isStrict : Bool
  /- what the code gives back is waited for first -/
  awaitsResult : Bool := false
  deriving Inhabited

/-
  A variable: it has no value before its declaration is reached.
-/
structure Cell where
  value : Option Value
  isConstant : Bool := false
  /- assignments to it are passed over outside of strict code -/
  isSilent : Bool := false
  /- the element of an object that always has the same value -/
  twin : Option (Ref × Nat) := none
  deriving Inhabited

------------------------------------------------------------
-- Objects
------------------------------------------------------------

structure Closure where
  info : FunctionInfo
  params : List Tree
  body : List Tree
  env : Env
  home : Option Ref
  isClass : Bool := false
  /- the methods that only the class itself can name -/
  secrets : List (Key × Property) := []
  /- the fields of the objects a class makes -/
  fields : List (Key × Tree) := []
  deriving Inhabited

/-
  What an iteration gives.
-/
inductive Listing where
  | keys | values | entries
  deriving DecidableEq, Repr, Inhabited

/-
  How far an iteration has got.  What is iterated over is let go at the end.
-/
inductive Cursor where
  | list (target : Option Ref) (next : Nat) (listing : Listing)
  | text (s : Units) (next : Nat)
  | collection (c : Collection) (target : Option Ref) (next : Nat) (listing : Listing)
  /- the matches of a regular expression in a text -/
  | matches (regexp : Option Ref) (s : Units) (isGlobal isUnicode : Bool)
  deriving Inhabited

def Cursor.kind : Cursor → IteratorKind
  | list _ _ _ => .list
  | text _ _ => .text
  | collection c _ _ _ =>
    match c with
    | .map | .weakMap => .map
    | .set | .weakSet => .set
  | .matches _ _ _ _ => .matches

/-
  How far a generator has got.
-/
inductive Activity where
  | fresh (env : Env) (body : List Tree)
  | paused
  | running
  | finished
  deriving Inhabited

/-
  What has become of a promise.
-/
inductive Settlement where
  | pending
  /- it will become what something else becomes -/
  | following
  | fulfilled (v : Value)
  | rejected (v : Value)
  deriving Inhabited

inductive Kind where
  | ordinary
  | array (length : Nat) (isWritable : Bool)
  | closure (c : Closure)
  | native (f : Native)
  | bound (target : Ref) (this : Value) (arguments : List Value)
  | error
  /- the arguments of a call, with the variables that some of them share their values with -/
  | arguments (twins : Array (Option Nat))
  | wrapper (v : Value)
  | regexp (r : Script.Regexp) (source : Units) (flags : String)
  | collection (c : Collection) (entries : Array (Option (Value × Value)))
  | promise (s : Settlement)
  | iterator (c : Cursor)
  | generator (a : Activity)
  | asyncGenerator (a : Activity)
  deriving Inhabited

/-
  An object.  The elements of a list that are there from the first on without a gap are
  kept apart, as long as they are plain members; `none` stands for a gap.
-/
structure Object where
  proto : Option Ref
  kind : Kind := .ordinary
  isExtensible : Bool := true
  items : Array (Option Value) := #[]
  properties : Array (Key × Property) := #[]
  deriving Inhabited

------------------------------------------------------------
-- The World
------------------------------------------------------------

/-
  What becomes of code given as text: it is refused, or handed back as it is.
-/
inductive DynamicCode where
  | deny
  | capture
  deriving DecidableEq, Repr, Inhabited

def DynamicCode.name : DynamicCode → String
  | deny => "deny"
  | capture => "capture"

def DynamicCode.ofName? (s : String) : Option DynamicCode :=
  [deny, capture].find? fun p => p.name == s

structure Limits where
  loopIterations : Nat
  recursion : Nat
  stackSize : Nat
  maxStringLength : Nat
  dynamicCode : DynamicCode
  deriving DecidableEq, Repr, Inhabited

structure World where
  objects : Array Object
  cells : Array Cell
  /- the descriptions of symbols -/
  symbols : Array (Option Units)
  /- the symbols that are known by a text -/
  registry : List (Units × Nat)
  /- the names declared by scripts that are no members of the global object -/
  lexicals : List (String × Nat)
  limits : Limits
  /- the calls that are going on -/
  depth : Nat
  /- the rounds of all loops of the current call -/
  rounds : Nat
  /- the lists of pieces that templates have handed to their tags -/
  templates : List (Nat × Value)
  /- the objects that are being converted to primitive values -/
  converting : List Ref
  /- the steps that matching may still take before nobody waits for it any longer -/
  patience : Nat
  deriving Inhabited

------------------------------------------------------------
-- Initial Objects
------------------------------------------------------------

inductive Intrinsic where
  | global | objectProto | functionProto | arrayProto | stringProto | numberProto | booleanProto
  | symbolProto | bigintProto | errorProto | evalErrorProto | rangeErrorProto
  | referenceErrorProto | syntaxErrorProto | typeErrorProto | uriErrorProto | regexpProto
  | mapProto | setProto | weakMapProto | weakSetProto | promiseProto
  | iteratorProto | arrayIteratorProto | stringIteratorProto | mapIteratorProto
  | setIteratorProto | matchIteratorProto | asyncIteratorProto
  | generatorFunctionProto | asyncFunctionProto | asyncGeneratorFunctionProto
  | generatorProto | asyncGeneratorProto | refusal
  deriving DecidableEq, Repr

namespace Intrinsic

def all : List Intrinsic :=
  [ global, objectProto, functionProto, arrayProto, stringProto, numberProto, booleanProto
  , symbolProto, bigintProto, errorProto, evalErrorProto, rangeErrorProto
  , referenceErrorProto, syntaxErrorProto, typeErrorProto, uriErrorProto, regexpProto
  , mapProto, setProto, weakMapProto, weakSetProto, promiseProto
  , iteratorProto, arrayIteratorProto, stringIteratorProto, mapIteratorProto
  , setIteratorProto, matchIteratorProto, asyncIteratorProto
  , generatorFunctionProto, asyncFunctionProto, asyncGeneratorFunctionProto
  , generatorProto, asyncGeneratorProto, refusal ]

/-
  Its number in every world.
-/
def ref (i : Intrinsic) : Ref := i.ctorIdx

def ofError : ErrorKind → Intrinsic
  | .error => errorProto
  | .eval => evalErrorProto
  | .range => rangeErrorProto
  | .reference => referenceErrorProto
  | .parsing => syntaxErrorProto
  | .type => typeErrorProto
  | .uri => uriErrorProto

def ofCollection : Collection → Intrinsic
  | .map => mapProto
  | .set => setProto
  | .weakMap => weakMapProto
  | .weakSet => weakSetProto

def ofIterator : IteratorKind → Intrinsic
  | .list => arrayIteratorProto
  | .text => stringIteratorProto
  | .map => mapIteratorProto
  | .set => setIteratorProto
  | .matches => matchIteratorProto

end Intrinsic

/-
  The symbols that the language itself uses.
-/
inductive WellKnown where
  | iterator | hasInstance | toPrimitive | toStringTag | asyncIterator | species
  | isConcatSpreadable | unscopables | matches | matchAll | replace | search | split
  deriving DecidableEq, Repr

namespace WellKnown

def names : List String :=
  [ "iterator", "hasInstance", "toPrimitive", "toStringTag", "asyncIterator", "species"
  , "isConcatSpreadable", "unscopables", "match", "matchAll", "replace", "search", "split" ]

def key (s : WellKnown) : Key := .symbol s.ctorIdx

end WellKnown

end Realm

end Devirt

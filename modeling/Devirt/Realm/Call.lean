import Devirt.Realm.Execute
import Devirt.Realm.Library.Arrays
import Devirt.Realm.Library.Collections
import Devirt.Realm.Library.Documents
import Devirt.Realm.Library.Globals
import Devirt.Realm.Library.Iterators
import Devirt.Realm.Library.Strings

/-
  Calls of functions of any kind, and the evaluator as a whole.

  Key definitions include:
    * `callNative`, `makeWith`
    * `callValue`, `constructValue`
    * `Machine.within`, the evaluator for computations up to a depth
-/

namespace Devirt

namespace Realm

open Library

------------------------------------------------------------
-- Functions of the Library
------------------------------------------------------------

def ArrayMethod.name (f : ArrayMethod) : String :=
  ((ArrayMethod.table.find? fun e => e.1 == f).map fun e => e.2.1).getD ""

/-
  A value, or an object that wraps it if it is made with a constructor.
-/
def wrapFor (m : Machine) (newTarget : Option Ref) (fallback : Intrinsic) (v : Value) :
    Run Value := do
  match newTarget with
  | some t => return .object (← makeFor m t fallback (.wrapper v))
  | none => return v

def makeText (m : Machine) (newTarget : Option Ref) (arguments : List Value) : Run Value := do
  match arguments with
  | [] => wrapFor m newTarget .stringProto (.string .empty)
  | v :: _ =>
    match v, newTarget with
    | .symbol id, none => return .string (← symbolText id)
    | v, newTarget => wrapFor m newTarget .stringProto (.string (← toUnits m v))

/-
  Makes an object with a constructor of the library, or calls that as a function.
-/
def makeWith (m : Machine) (maker : Maker) (newTarget : Option Ref) (arguments : List Value) :
    Run Value := do
  let a := argument arguments 0
  match maker with
  | .object =>
    if a.isNullish then
      match newTarget with
      | some t => return .object (← makeFor m t .objectProto .ordinary)
      | none => return .object (← makeObject)
    else
      return .object (← toObject a)
  | .function => raiseError .eval "functions are not made from texts"
  | .array => constructArray m newTarget arguments
  | .string => makeText m newTarget arguments
  | .number =>
    let x ← if arguments.isEmpty then pure 0.0 else convertToNumber m a
    wrapFor m newTarget .numberProto (.number x)
  | .boolean => wrapFor m newTarget .booleanProto (.bool a.toBool)
  | .symbol =>
    match newTarget with
    | some _ => throwType "Symbol is not a constructor"
    | none =>
      let description ← if a.isUndefined then pure none else do pure (some (← toUnits m a))
      return .symbol (← makeSymbol description)
  | .bigint =>
    match newTarget with
    | some _ => throwType "BigInt is not a constructor"
    | none => makeBigint m a
  | .regexp => constructRegexp m newTarget arguments
  | .promise =>
    match newTarget with
    | some t => constructPromise m t arguments
    | none => throwType "Promise NewTarget cannot be undefined"
  | .collection c =>
    match newTarget with
    | some t => constructCollection m c t arguments
    | none => throwType "calling a builtin constructor without new is forbidden"
  | .error k => makeErrorFor m k newTarget arguments

def refusalMessage : String :=
  "'caller', 'callee', and 'arguments' properties may not be accessed on strict mode functions "
    ++ "or the arguments objects for calls to them"

def callNative (m : Machine) (f : Native) (this : Value) (arguments : List Value) : Run Value := do
  match f with
  | .make maker => makeWith m maker none arguments
  | .object f => callObject m f arguments
  | .objectMethod f => callObjectMethod m f this arguments
  | .function f => callFunctionMethod m f this arguments
  | .array f => callArray m f this arguments
  | .arrayMethod f => callArrayMethod m f f.name this arguments
  | .string f => callString m f arguments
  | .stringMethod f => callStringMethod m f this arguments
  | .number f => callNumber f arguments
  | .numberMethod f => callNumberMethod m f this arguments
  | .booleanToText => return .ofString (if ← boolItself this then "true" else "false")
  | .booleanValueOf => return .bool (← boolItself this)
  | .math f => callMath m f arguments
  | .bigint f => callBigint m f this arguments
  | .symbol f => callSymbol m f this arguments
  | .regexp f => callRegexp m f this arguments
  | .json f => callJson m f arguments
  | .collection c f => callCollection m c f this arguments
  | .promise f => callPromise m f this arguments
  | .global f => callGlobal m f arguments
  | .mapGroupBy => groupEntries m (argument arguments 0) (argument arguments 1)
  | .errorToText => errorText m this
  | .iteratorNext k => iteratorNext m k this
  | .generator f => resumeGenerator this (f.signal (argument arguments 0))
  | .asyncGenerator f => callAsyncGenerator m f this arguments
  | .itself => return this
  | .refuse => throwType refusalMessage
  | .nothing => return .undefined

------------------------------------------------------------
-- All Functions
------------------------------------------------------------

def callValue (m : Machine) (f this : Value) (arguments : List Value) : Run Value := do
  match f with
  | .object r =>
    match (← getObject r).kind with
    | .closure c =>
      checkDepth
      callClosure m c r this arguments
    | .native f =>
      checkDepth
      callNative m f this arguments
    | .bound target this fixed => m.call (.object target) this (fixed ++ arguments)
    | _ => throwType "not a callable function"
  | _ => throwType "not a callable function"

def constructValue (m : Machine) (r : Ref) (arguments : List Value) (newTarget : Ref) :
    Run Value := do
  match (← getObject r).kind with
  | .closure c =>
    checkDepth
    constructClosure m c r arguments newTarget
  | .native (.make maker) =>
    checkDepth
    makeWith m maker (some newTarget) arguments
  | .bound target _ fixed =>
    m.construct target (fixed ++ arguments) (if newTarget == r then target else newTarget)
  | _ => throwType "not a constructor"

------------------------------------------------------------
-- The Evaluator
------------------------------------------------------------

/-
  The evaluator for computations that are nested no deeper than a bound.
-/
def Machine.within : Nat → Machine
  | 0 =>
    { evaluate := fun _ _ => throw .stuck
      execute := fun _ _ => throw .stuck
      call := fun _ _ _ => throw .stuck
      construct := fun _ _ _ => throw .stuck }
  | n + 1 =>
    { evaluate := fun env t => evaluateTree (within n) env t
      execute := fun env t => executeTree (within n) (assignSink (within n)) env t
      call := fun f this arguments => callValue (within n) f this arguments
      construct := fun r arguments newTarget => constructValue (within n) r arguments newTarget }

/-
  The evaluator.
-/
def machine : Machine := Machine.within boundless

end Realm

end Devirt

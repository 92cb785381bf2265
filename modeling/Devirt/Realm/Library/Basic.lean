import Devirt.Realm.Closure

/-
  What the functions of the library have in common.

  Key definitions include:
    * `argument`
    * `forIndices`, `findIndex`
    * `requireCallable`, `requireValue`
-/

namespace Devirt

namespace Realm

namespace Library

------------------------------------------------------------
-- Arguments
------------------------------------------------------------

/-
  An argument, or no value if it was not given.
-/
def argument (arguments : List Value) (i : Nat) : Value :=
  arguments.getD i .undefined

/-
  Fails unless a value is a function.
-/
def requireCallable (v : Value) (message : String) : Run Unit := do
  if !(← isCallable v) then
    throwType message

/-
  Fails if there is no value that a function could work on.
-/
def requireValue (v : Value) : Run Unit := do
  if v.isNullish then
    throwType "cannot convert null or undefined to Object"

/-
  A place that an argument gives, counted from the beginning or from the end; the default
  is taken if the argument was not given.
-/
def placeOf (m : Machine) (v : Value) (length default : Nat) : Run Nat := do
  if v.isUndefined then
    return default
  else
    return relativeIndex (← toWhole m v) length

------------------------------------------------------------
-- Repetition
------------------------------------------------------------

/-
  Does something for so many numbers from one on.
-/
def forIndicesFrom (f : Nat → Run Unit) : Nat → Nat → Run Unit
  | 0, _ => pure ()
  | count + 1, i => do
    f i
    forIndicesFrom f count (i + 1)

/-
  Does something for all numbers below a bound.
-/
def forIndices (bound : Nat) (f : Nat → Run Unit) : Run Unit :=
  forIndicesFrom f bound 0

/-
  The first result among so many numbers from one on.
-/
def searchUp (f : Nat → Run (Option α)) : Nat → Nat → Run (Option α)
  | 0, _ => return none
  | count + 1, i => do
    match ← f i with
    | some a => return some a
    | none => searchUp f count (i + 1)

/-
  The first result among the numbers below a bound, from the last one down.
-/
def searchDown (f : Nat → Run (Option α)) : Nat → Run (Option α)
  | 0 => return none
  | i + 1 => do
    match ← f i with
    | some a => return some a
    | none => searchDown f i

------------------------------------------------------------
-- Objects
------------------------------------------------------------

/-
  Makes an object that inherits from what a constructor says.
-/
def makeFor (m : Machine) (newTarget : Ref) (fallback : Intrinsic) (kind : Kind) : Run Ref := do
  allocate { proto := some (← protoFor m newTarget fallback), kind }

/-
  A list of a key and a value.
-/
def makePair (a b : Value) : Run Value := makeArray [a, b]

/-
  The constructor that an object says objects derived from it are made with; nothing if it
  leaves that open.
-/
def speciesOf (m : Machine) (r : Ref) : Run (Option Ref) := do
  match ← getFrom m r Key.constructor with
  | .undefined => return none
  | .object c =>
    match ← getFrom m c WellKnown.species.key with
    | .undefined | .null => return none
    | .object s =>
      if ← isConstructorRef s then return some s
      else throwType "property 'constructor' is not a constructor"
    | _ => throwType "property 'constructor' is not a constructor"
  | _ => throwType "property 'constructor' is not an object"

/-
  The value that an object wraps or that is given itself.
-/
def unwrap (v : Value) : Run Value := do
  match v with
  | .object r =>
    match (← getObject r).kind with
    | .wrapper w => return w
    | _ => return v
  | v => return v

end Library

end Realm

end Devirt

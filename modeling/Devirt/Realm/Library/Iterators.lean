import Devirt.Realm.Library.Collections
import Devirt.Realm.Library.Regexps

/-
  The functions of iterators and generators.

  Key definitions include:
    * `iteratorNext`
    * `callAsyncGenerator`
-/

namespace Devirt

namespace Realm

namespace Library

------------------------------------------------------------
-- Iterators
------------------------------------------------------------

/-
  An element under its number, as the listing asks.
-/
def listed (listing : Listing) (k v : Value) : Run Value :=
  match listing with
  | .keys => pure k
  | .values => pure v
  | .entries => makePair k v

/-
  The next entry of a collection from a place on, in so many tries at most.
-/
def nextEntry (es : Entries) : Nat → Nat → Option (Value × Value × Nat)
  | 0, _ => none
  | tries + 1, i =>
    match es[i]? with
    | some (some (k, v)) => some (k, v, i + 1)
    | some none => nextEntry es tries (i + 1)
    | none => none

/-
  The next value of an iterator and where it has got to.
-/
def advance (m : Machine) : Cursor → Run (Option Value × Cursor)
  | .list none i listing => return (none, .list none i listing)
  | .list (some target) i listing => do
    if i < (← lengthOf m target) then
      let v ← match listing with
        | .keys => pure .undefined
        | _ => getFrom m target (.ofNat i)
      return (some (← listed listing (.ofNat i) v), .list (some target) (i + 1) listing)
    else
      return (none, .list none i listing)
  | .text s i =>
    match s.get? i with
    | none => return (none, .text .empty 0)
    | some u =>
      let isPair := Units.isHighHalf u && (s.get? (i + 1)).any Units.isLowHalf
      let width := if isPair then 2 else 1
      return (some (.string (s.slice i (i + width))), .text s (i + width))
  | .collection c none i listing => return (none, .collection c none i listing)
  | .collection c (some target) i listing => do
    match (← getObject target).kind with
    | .collection _ es =>
      match nextEntry es (es.size + 1 - i) i with
      | some (k, v, i) =>
        return (some (← listed listing k v), .collection c (some target) i listing)
      | none => return (none, .collection c none i listing)
    | _ => return (none, .collection c none i listing)
  | .matches none s isGlobal isUnicode => return (none, .matches none s isGlobal isUnicode)
  | .matches (some r) s isGlobal isUnicode => do
    match ← execute m r s with
    | none => return (none, .matches none s isGlobal isUnicode)
    | some found =>
      if isGlobal then
        let _ ← takeMatch m r s isUnicode found
        return (some (.object found), .matches (some r) s isGlobal isUnicode)
      else
        return (some (.object found), .matches none s isGlobal isUnicode)

def setCursor (r : Ref) (c : Cursor) : Run Unit :=
  updateObject r fun o => { o with kind := .iterator c }

def iteratorNext (m : Machine) (k : IteratorKind) (this : Value) : Run Value := do
  match this with
  | .object r =>
    match (← getObject r).kind with
    | .iterator c =>
      if c.kind != k then
        throwType ("`this` is not a " ++ k.tag)
      let (v, c) ← advance m c
      setCursor r c
      stepResult (v.getD .undefined) v.isNone
    | _ => throwType ("`this` is not a " ++ k.tag)
  | _ => throwType ("`this` is not a " ++ k.tag)

------------------------------------------------------------
-- Generators that Wait
------------------------------------------------------------

def setActivity (r : Ref) (a : Activity) : Run Unit :=
  updateObject r fun o => { o with kind := .asyncGenerator a }

/-
  Runs the code of a generator up to the first thing that it waits for.
-/
def runAwaiting (m : Machine) (r : Ref) (env : Env) (body : List Script.Tree) : Run Value := do
  setActivity r .running
  match ← outcome (inCall (executeBody m env body)) with
  | .ok v =>
    setActivity r .finished
    makePromise (.fulfilled (← stepResult v true))
  | .error (.thrown v) =>
    setActivity r .finished
    makePromise (.rejected v)
  | .error .suspended => makePromise .pending
  | .error e => throw e

/-
  Tells a generator that waits to go on.  All it gives is waited for, so what it is told
  after the first time has to wait too.
-/
def callAsyncGenerator (m : Machine) (f : GeneratorMethod) (this : Value)
    (arguments : List Value) : Run Value := do
  let a := argument arguments 0
  let refuse := do
    makePromise (.rejected (.object (← makeError .type "`this` is not an async generator")))
  match this with
  | .object r =>
    match (← getObject r).kind with
    | .asyncGenerator activity =>
      match activity, f with
      | .running, _ | .paused, _ => makePromise .pending
      | .fresh env body, .next => runAwaiting m r env body
      | _, .next => makePromise (.fulfilled (← stepResult .undefined true))
      | _, .finish =>
        setActivity r .running
        makePromise .pending
      | _, .raise =>
        setActivity r .finished
        makePromise (.rejected a)
    | _ => refuse
  | _ => refuse

end Library

end Realm

end Devirt

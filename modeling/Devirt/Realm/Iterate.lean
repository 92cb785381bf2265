import Devirt.Realm.Operator

/-
  Repetition, and the values that an object gives one after the other.

  Key definitions include:
    * `repeatRun`
    * `openIterator`, `Iterator.step`, `Iterator.guard`
    * `collect`
-/

namespace Devirt

namespace Realm

------------------------------------------------------------
-- Repetition
------------------------------------------------------------

/-
  Repeats a step until it gives a result, up to a number of times.
-/
def repeatUpTo (step : α → Run (α ⊕ β)) : Nat → α → Run β
  | 0, _ => throw .stuck
  | n + 1, a => do
    match ← step a with
    | .inl a => repeatUpTo step n a
    | .inr b => return b

/-
  More rounds than any computation can make.
-/
def boundless : Nat := Nat.pow 2 60

/-
  Repeats a step until it gives a result.
-/
def repeatRun (step : α → Run (α ⊕ β)) (a : α) : Run β :=
  repeatUpTo step boundless a

/-
  Counts a round of a loop of the current call.
-/
def countRound : Run Unit := do
  let w ← get
  if w.limits.loopIterations < w.rounds then
    throw (.limit ("Maximum loop iteration limit " ++ toString w.limits.loopIterations
      ++ " exceeded"))
  else
    set { w with rounds := w.rounds + 1 }

------------------------------------------------------------
-- Iterators
------------------------------------------------------------

/-
  An object that gives values, and its function that gives the next one.
-/
structure Iterator where
  source : Value
  next : Value

/-
  The iterator that a function makes for a value.
-/
def openWith (m : Machine) (f v : Value) : Run Iterator := do
  let source ← m.call f v []
  if source.isObject then
    return ⟨source, ← getMember m source (Key.ofString "next")⟩
  else
    throwType "returned iterator is not an object"

def openIterator (m : Machine) (v : Value) : Run Iterator := do
  match ← getMethod m v WellKnown.iterator.key with
  | some f => openWith m f v
  | none => throwType ("value with type `" ++ (← typeName v) ++ "` is not iterable")

/-
  The next value, unless there is none left.
-/
def Iterator.step (m : Machine) (it : Iterator) : Run (Option Value) := do
  let r ← m.call it.next it.source []
  if !r.isObject then
    throwType "next value should be an object"
  if (← getMember m r Key.done).toBool then
    return none
  else
    return some (← getMember m r Key.value)

/-
  Tells an iterator that no more values are wanted.
-/
def Iterator.close (m : Machine) (it : Iterator) : Run Unit := do
  match ← getMethod m it.source (Key.ofString "return") with
  | some f =>
    if !(← m.call f it.source []).isObject then
      throwType "inner result was not an object"
  | none => pure ()

/-
  Does something with the values of an iterator.  If that is broken off, the iterator is
  told; an error counts more than what the iterator throws then.
-/
def Iterator.guard (m : Machine) (it : Iterator) (p : Run α) : Run α := do
  match ← outcome p with
  | .ok a => return a
  | .error (.thrown v) =>
    match ← outcome (it.close m) with
    | .ok _ | .error (.thrown _) => throwValue v
    | .error e => throw e
  | .error (.finishing v) =>
    it.close m
    throw (.finishing v)
  | .error e => throw e

/-
  All values that are left of an iterator.
-/
def Iterator.collect (m : Machine) (it : Iterator) : Run (List Value) :=
  repeatRun
    (fun (done : List Value) => do
      match ← it.step m with
      | some v => return .inl (v :: done)
      | none => return .inr done.reverse)
    []

/-
  All values that an object gives.
-/
def collect (m : Machine) (v : Value) : Run (List Value) := do
  (← openIterator m v).collect m

/-
  Does something for the values that an iterator gives, with their numbers, and gives the
  number of them.
-/
def Iterator.forEach (m : Machine) (it : Iterator) (f : Nat → Value → Run Unit) : Run Nat :=
  repeatRun
    (fun (i : Nat) => do
      match ← it.step m with
      | some v =>
        it.guard m (f i v)
        return .inl (i + 1)
      | none => return .inr i)
    0

/-
  The object that an iterator gives for a value, which may be the last one.
-/
def stepResult (v : Value) (isDone : Bool) : Run Value := do
  let r ← makeObject
  createMember r Key.value v
  createMember r Key.done (.bool isDone)
  return .object r

def makeIterator (c : Cursor) : Run Value := do
  let proto := Intrinsic.ofIterator c.kind
  return .object (← allocate { proto := some proto.ref, kind := .iterator c })

------------------------------------------------------------
-- Iterators that Wait
------------------------------------------------------------

/-
  Asks an object for its next value where that is waited for, which is never over before
  the script is.  What a plain iterator throws is waited for like its values.
-/
def awaitFirst (m : Machine) (v : Value) : Run α := do
  match ← getMethod m v WellKnown.asyncIterator.key with
  | some f =>
    let it ← openWith m f v
    let _ ← m.call it.next it.source []
    throw .suspended
  | none =>
    let it ← openIterator m v
    match ← outcome (m.call it.next it.source []) with
    | .ok _ | .error (.thrown _) => throw .suspended
    | .error e => throw e

end Realm

end Devirt

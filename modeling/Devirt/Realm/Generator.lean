import Devirt.Realm.Closure

/-
  Generators: code that stops to give a value and goes on when it is woken.

  The code of a generator and the code that uses it take turns.  Whoever asks for the next
  value waits until the generator gives one, and the generator waits until it is asked
  again.  What the waiting code will do is kept by the one who drives all of it.

  Key definitions include:
    * `resumeGenerator`, which wakes a generator
    * `giveValue`, `delegate`, the expressions that give values
    * `drive`, which lets the codes take turns
-/

namespace Devirt

namespace Realm

open Script (Tree)

------------------------------------------------------------
-- Waking
------------------------------------------------------------

/-
  Goes on as a signal says.
-/
def Signal.obey : Signal → Run Value
  | next v => pure v
  | raise v => throwValue v
  | finish v => throw (.finishing v)

/-
  A generator told to do what a signal says.
-/
def GeneratorMethod.signal (f : GeneratorMethod) (v : Value) : Signal :=
  match f with
  | .next => .next v
  | .finish => .finish v
  | .raise => .raise v

/-
  What is told about a generator that does not run any more.
-/
def answerFinished : Signal → Run Value
  | .next _ => stepResult .undefined true
  | .raise v => throwValue v
  | .finish v => stepResult v true

/-
  Wakes a generator and gives what that hands over.
-/
def resumeGenerator (this : Value) (s : Signal) : Run Value := do
  match this with
  | .object r =>
    match (← getObject r).kind with
    | .generator a =>
      match a, s with
      | .running, _ => throwType "Generator should not be executing"
      | .finished, s => answerFinished s
      | .paused, s => (← ask (.wake r s)).obey
      | .fresh _ _, .next v => (← ask (.wake r (.next v))).obey
      | .fresh _ _, s =>
        updateObject r fun o => { o with kind := .generator .finished }
        answerFinished s
    | _ => throwType "generator resumed on non generator object"
  | _ => throwType "generator resumed on non generator object"

------------------------------------------------------------
-- Giving
------------------------------------------------------------

/-
  Gives a value to whoever woke the generator, and waits for what comes back.
-/
def giveValue (env : Env) (v : Value) : Run Value := do
  if env.awaitsResult then
    throw .suspended
  else
    (← ask (.give (← stepResult v false))).obey

/-
  What an iterator answered to code that gives all its values: the answer is handed on, or
  it was the last one.
-/
def relay (m : Machine) (answer : Value) (isFinishing : Bool) : Run (Signal ⊕ Value) := do
  if !answer.isObject then
    throwType "iterator result is not an object"
  if (← getMember m answer Key.done).toBool then
    let v ← getMember m answer Key.value
    if isFinishing then throw (.finishing v) else return .inr v
  else
    return .inl (← ask (.give answer))

/-
  Gives all values of an iterator, which is told whatever comes back.
-/
def delegate (m : Machine) (env : Env) (v : Value) : Run Value := do
  if env.awaitsResult then
    awaitFirst m v
  else
    let it ← openIterator m v
    repeatRun
      (fun (s : Signal) => do
        match s with
        | .next v => relay m (← m.call it.next it.source [v]) false
        | .raise v =>
          match ← getMethod m it.source (Key.ofString "throw") with
          | some f => relay m (← m.call f it.source [v]) false
          | none =>
            it.close m
            throwType "iterator does not have a throw method"
        | .finish v =>
          match ← getMethod m it.source (Key.ofString "return") with
          | some f => relay m (← m.call f it.source [v]) true
          | none => throw (.finishing v))
      (.next .undefined)

------------------------------------------------------------
-- Taking Turns
------------------------------------------------------------

/-
  Runs the code of a generator from its beginning and gives its last answer.
-/
def startGenerator (m : Machine) (r : Ref) : Run Value := do
  match (← getObject r).kind with
  | .generator (.fresh env body) =>
    updateObject r fun o => { o with kind := .generator .running }
    match ← outcome (executeBody m env body) with
    | .ok v => stepResult v true
    | .error (.finishing v) => stepResult v true
    | .error e => throw e
  | _ => stepResult .undefined true

/-
  A generator that waits to be woken.
-/
structure Sleeper where
  generator : Ref
  /- the rounds of its loops so far -/
  rounds : Nat
  rest : Signal → World → Step Value

/-
  Code that waits for a generator.
-/
structure Waker where
  generator : Ref
  depth : Nat
  rounds : Nat
  rest : Signal → World → Step Value

/-
  The world when the code that waits for a generator goes on.
-/
def Waker.world (k : Waker) (a : Activity) (w : World) : World :=
  { w with
    objects := w.objects.modify k.generator fun o => { o with kind := .generator a }
    depth := k.depth
    rounds := k.rounds }

/-
  Lets the codes of a script and its generators take turns until the script is over.  The
  fuel bounds the number of turns.
-/
def drive (m : Machine) :
    Nat → List Sleeper → List Waker → Step Value → Except Abrupt Value × World
  | 0, _, _, .ok _ w => (.error .stuck, w)
  | 0, _, _, .error _ w => (.error .stuck, w)
  | 0, _, _, .ask _ w _ => (.error .stuck, w)
  | _ + 1, _, [], .ok v w => (.ok v, w)
  | fuel + 1, sleepers, k :: wakers, .ok v w =>
    drive m fuel sleepers wakers (k.rest (.next v) (k.world .finished w))
  | fuel + 1, sleepers, k :: wakers, .error (.thrown v) w =>
    drive m fuel sleepers wakers (k.rest (.raise v) (k.world .finished w))
  | _ + 1, _, _, .error e w => (.error e, w)
  | _ + 1, _, [], .ask (.give _) w _ => (.error .stuck, w)
  | fuel + 1, sleepers, k :: wakers, .ask (.give v) w rest =>
    drive m fuel (⟨k.generator, w.rounds, rest⟩ :: sleepers) wakers
      (k.rest (.next v) (k.world .paused w))
  | fuel + 1, sleepers, wakers, .ask (.wake r s) w rest =>
    let k : Waker := ⟨r, w.depth, w.rounds, rest⟩
    match sleepers.find? fun x => x.generator == r with
    | some x =>
      let others := sleepers.filter fun x => x.generator != r
      let woken := { k.world .running w with depth := w.depth + 1, rounds := x.rounds }
      drive m fuel others (k :: wakers) (x.rest s woken)
    | none =>
      let started := { w with depth := w.depth + 1, rounds := 0 }
      drive m fuel sleepers (k :: wakers) (startGenerator m r started)

/-
  Runs a script with all its generators.
-/
def Run.toEnd (m : Machine) (p : Run Value) (w : World) : Except Abrupt Value × World :=
  drive m boundless [] [] (p w)

end Realm

end Devirt

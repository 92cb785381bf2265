import Devirt.Realm.World

/-
  What scripts do to the world.

  Whatever a script does is a step from one world to the next that gives a value, or is
  broken off by a thrown value or by a limit.  A limit cannot be caught by the script.  A
  step may also stop half-way with a request to its surroundings, and goes on when it gets
  an answer: that is how the code of a generator and the code that uses it take turns.

  Key definitions include:
    * `Abrupt`, `Request`, `Signal`
    * `Step`, `Run`
    * `Machine`, the mutually dependent parts of the evaluator
-/

namespace Devirt

namespace Realm

open Script (Tree)

------------------------------------------------------------
-- Steps
------------------------------------------------------------

/-
  Why a computation was broken off.
-/
inductive Abrupt where
  | thrown (v : Value)
  | limit (message : String)
  /- the code waits for something that happens only after the script -/
  | suspended
  /- a generator is told to give back a value from where it waits -/
  | finishing (v : Value)
  /- the computation takes longer than anybody waits -/
  | stuck
  deriving Inhabited

/-
  How code that waits for an answer goes on: with a value, with an error, or by giving
  back a value at once.
-/
inductive Signal where
  | next (v : Value)
  | raise (v : Value)
  | finish (v : Value)
  deriving Inhabited

/-
  What a computation asks of its surroundings.
-/
inductive Request where
  /- to hand a value to whoever woke the generator that runs -/
  | give (v : Value)
  /- to wake a generator -/
  | wake (generator : Ref) (s : Signal)
  deriving Inhabited

/-
  The result of a step: a value, the reason why it was broken off, or a request with what
  follows on its answer.
-/
inductive Step (α : Type) where
  | ok (a : α) (w : World)
  | error (e : Abrupt) (w : World)
  | ask (r : Request) (w : World) (rest : Signal → World → Step α)

namespace Step

/-
  Goes on with the value of a step.
-/
def bind (s : Step α) (f : α → World → Step β) : Step β :=
  match s with
  | ok a w => f a w
  | error e w => error e w
  | ask r w rest => ask r w fun s w => (rest s w).bind f

/-
  A step that is never broken off, but gives the reason for it.
-/
def outcome : Step α → Step (Except Abrupt α)
  | ok a w => ok (.ok a) w
  | error e w => ok (.error e) w
  | ask r w rest => ask r w fun s w => (rest s w).outcome

end Step

/-
  What is done to a world.
-/
def Run (α : Type) := World → Step α

/-
  The result of a computation, also if it was broken off.
-/
def outcome (p : Run α) : Run (Except Abrupt α) := fun w => (p w).outcome

namespace Run

@[always_inline, inline]
def bind (p : Run α) (f : α → Run β) : Run β := fun w =>
  match p w with
  | .ok a w => f a w
  | .error e w => .error e w
  | .ask r w rest => .ask r w fun s w => (rest s w).bind f

@[always_inline]
instance : Monad Run where
  pure a := fun w => .ok a w
  bind := bind

@[always_inline]
instance : MonadStateOf World Run where
  get := fun w => .ok w w
  set w := fun _ => .ok () w
  modifyGet f := fun w =>
    match f w with
    | (a, w) => .ok a w

@[always_inline]
instance : MonadExceptOf Abrupt Run where
  throw e := fun w => .error e w
  tryCatch p f := bind (outcome p) fun r =>
    match r with
    | .ok a => pure a
    | .error e => f e

instance : Inhabited (Run α) := ⟨fun w => .error .stuck w⟩

end Run

/-
  Asks the surroundings for something.
-/
def ask (r : Request) : Run Signal := fun w => .ask r w fun s w => .ok s w

------------------------------------------------------------
-- The Evaluator
------------------------------------------------------------

/-
  How a statement ended, with the value it leaves behind.
-/
inductive Completion where
  | normal (v : Option Value)
  | broken (label : Option String) (v : Option Value)
  | continued (label : Option String) (v : Option Value)
  | returned (v : Value)
  deriving Inhabited

/-
  The mutually dependent parts of the evaluator.
-/
structure Machine where
  evaluate : Env → Tree → Run Value
  execute : Env → Tree → Run Completion
  call : Value → Value → List Value → Run Value
  /- makes an object with a constructor, for the constructor that was asked -/
  construct : Ref → List Value → Ref → Run Value

------------------------------------------------------------
-- Objects and Variables
------------------------------------------------------------

/-
  Makes a new object.
-/
def allocate (o : Object) : Run Ref :=
  modifyGet fun w => (w.objects.size, { w with objects := w.objects.push o })

def getObject (r : Ref) : Run Object := do
  return (← get).objects.getD r default

def updateObject (r : Ref) (f : Object → Object) : Run Unit :=
  modify fun w => { w with objects := w.objects.modify r f }

def allocateCell (c : Cell) : Run Nat :=
  modifyGet fun w => (w.cells.size, { w with cells := w.cells.push c })

def getCell (n : Nat) : Run Cell := do
  return (← get).cells.getD n default

def setCell (n : Nat) (c : Cell) : Run Unit :=
  modify fun w => { w with cells := w.cells.setIfInBounds n c }

def throwValue (v : Value) : Run α := throw (.thrown v)

/-
  Makes an error object.
-/
def makeError (k : ErrorKind) (message : String) : Run Ref :=
  allocate
    { proto := some (Intrinsic.ofError k).ref
      kind := .error
      properties := #[(Key.message, .hidden (.ofString message))] }

def raiseError (k : ErrorKind) (message : String) : Run α := do
  throwValue (.object (← makeError k message))

def throwType (message : String) : Run α := raiseError .type message

/-
  Goes on with the result of a step.
-/
def resume : Except Abrupt α → Run α
  | .ok a => pure a
  | .error e => throw e

------------------------------------------------------------
-- Common Objects
------------------------------------------------------------

def makeObject : Run Ref :=
  allocate { proto := some Intrinsic.objectProto.ref }

def makeArrayOf (items : Array (Option Value)) : Run Ref :=
  allocate
    { proto := some Intrinsic.arrayProto.ref
      kind := .array items.size true
      items }

def makeArray (items : List Value) : Run Value := do
  return .object (← makeArrayOf (items.map some).toArray)

end Realm

end Devirt

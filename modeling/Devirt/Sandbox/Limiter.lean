/-
  A gate that admits a limited number of workers at a time.

  Whoever is admitted holds a permit until it is dropped.  Someone who finds all slots
  taken waits until a slot is free or a deadline has passed; only in the second case is
  the request refused.

  Everybody looks at the gate under a lock, so a look and a drop are one step each.  What
  one client does between two of its steps is up to the others: a slot may be gone again
  when a woken client looks, and a deadline may have passed.

  Key definitions include:
    * `Limiter`, `Limiter.acquire`, `Limiter.release`
    * `Limiter.look`, a request that has the lock
    * `Limiter.Clients`, the requests of all clients of one limiter
    * `Limiter.Clients.step`
-/

namespace Devirt

------------------------------------------------------------
-- The Gate
------------------------------------------------------------

structure Limiter where
  capacity : Nat
  inUse : Nat
  deriving DecidableEq, Repr

namespace Limiter

/-
  A gate with all slots free; there is at least one.
-/
def ofCapacity (capacity : Nat) : Limiter :=
  ⟨max capacity 1, 0⟩

/-
  Takes a slot if one is free.
-/
def acquire (l : Limiter) : Option Limiter :=
  if l.inUse < l.capacity then some { l with inUse := l.inUse + 1 } else none

/-
  Gives a slot back.
-/
def release (l : Limiter) : Limiter :=
  { l with inUse := l.inUse - 1 }

------------------------------------------------------------
-- Requests
------------------------------------------------------------

/-
  How far a request is.
-/
inductive Stage where
  /- waits for a slot; one that is awake is about to look again -/
  | waiting (deadline : Nat) (isAwake : Bool)
  /- holds a permit -/
  | holding
  /- has dropped its permit -/
  | finished
  | refused
  deriving DecidableEq, Repr

/-
  A request looks at the gate: it takes a slot if one is free, and is refused if its
  deadline has passed.
-/
def look (l : Limiter) (now deadline : Nat) : Stage × Limiter :=
  match l.acquire with
  | some l => (.holding, l)
  | none => (if deadline ≤ now then .refused else .waiting deadline false, l)

/-
  Ends the sleep of a request that waits.
-/
def Stage.wake : Stage → Stage
  | waiting deadline _ => waiting deadline true
  | s => s

def Stage.isAsleep : Stage → Bool
  | waiting _ isAwake => !isAwake
  | _ => false

------------------------------------------------------------
-- Clients
------------------------------------------------------------

/-
  What happens at a gate.  Requests are numbered in the order in which they came.
-/
inductive Event where
  /- someone comes and looks; a deadline that has passed is never waited for -/
  | request (deadline : Nat := 0)
  /- a request that waits wakes up, be it that its time is over or for no reason -/
  | wake (request : Nat)
  /- a request that is awake looks again -/
  | lookAgain (request : Nat)
  /- the permit of a request is dropped, which wakes one of those that sleep -/
  | drop (request : Nat) (woken : Nat := 0)
  | pass (time : Nat)
  deriving DecidableEq, Repr

/-
  A gate with all requests made so far, in order, and the time.
-/
structure Clients where
  gate : Limiter
  now : Nat
  requests : List Stage
  deriving DecidableEq, Repr

namespace Clients

def ofCapacity (capacity : Nat) : Clients :=
  ⟨Limiter.ofCapacity capacity, 0, []⟩

/-
  The number of permits granted and not yet dropped.
-/
def held (c : Clients) : Nat :=
  c.requests.count .holding

/-
  Whether a request waits and is not awake.
-/
def sleeps (c : Clients) (k : Nat) : Bool :=
  (c.requests[k]?.map Stage.isAsleep).getD false

/-
  Ends the sleep of a request.
-/
def wake (c : Clients) (k : Nat) : Clients :=
  { c with requests := c.requests.modify k Stage.wake }

/-
  Wakes the given request if it sleeps, and else the first that does.
-/
def notify (c : Clients) (k : Nat) : Clients :=
  c.wake (if c.sleeps k then k else c.requests.findIdx Stage.isAsleep)

/-
  One event, with whether it had an effect: a request was admitted, someone who slept
  woke up, a permit that was held was dropped.
-/
def step (c : Clients) : Event → Bool × Clients
  | .request deadline =>
    let (stage, gate) := c.gate.look c.now deadline
    (stage == .holding, { c with gate, requests := c.requests ++ [stage] })
  | .wake k => (c.sleeps k, c.wake k)
  | .lookAgain k =>
    match c.requests[k]? with
    | some (.waiting deadline true) =>
      let (stage, gate) := c.gate.look c.now deadline
      (stage == .holding, { c with gate, requests := c.requests.set k stage })
    | _ => (false, c)
  | .drop k woken =>
    match c.requests[k]? with
    | some .holding =>
      let c := { c with gate := c.gate.release, requests := c.requests.set k .finished }
      (true, c.notify woken)
    | _ => (false, c)
  | .pass time => (true, { c with now := c.now + time })

/-
  The clients after a sequence of events.
-/
def after (c : Clients) (events : List Event) : Clients :=
  events.foldl (fun c e => (c.step e).2) c

/-
  The answers to a sequence of events, each with the slots then in use.
-/
def run : Clients → List Event → List (Bool × Nat)
  | _, [] => []
  | c, e :: rest =>
    let (done, next) := c.step e
    (done, next.gate.inUse) :: run next rest

end Clients

end Limiter

end Devirt

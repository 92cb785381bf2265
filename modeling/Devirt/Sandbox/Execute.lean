import Devirt.Sandbox.Exchange
import Devirt.Sandbox.Limiter

/-
  The sandbox: scripts that nobody trusts are run under limits.

  A request is refused if its script is too long or if no slot is free before its
  deadline.  A worker that has not answered at the deadline is given up.  One in a process
  of its own is stopped and its slot is free again; one on a thread cannot be stopped and
  keeps its slot until it exits.

  Key definitions include:
    * `Sandbox.Request`, `Sandbox.Reply`
    * `Sandbox.Host`, what starts workers
    * `Sandbox`, `Sandbox.call`, `Sandbox.execute`
    * `Sandbox.Crew`, a sandbox with the threads that still have slots
-/

namespace Devirt

namespace Sandbox

------------------------------------------------------------
-- Requests and Replies
------------------------------------------------------------

structure Request where
  code : String
  timeoutMs : Nat
  memoryMb : Nat
  dynamicCode : Realm.DynamicCode := .deny
  deriving DecidableEq, Repr

/-
  Either a success with an optional output, or a failure with an error.
-/
structure Reply where
  ok : Bool
  output : Option Json
  error : Option String
  timedOut : Bool
  deriving Repr

namespace Reply

def succeeded (output : Option Json) : Reply := ⟨true, output, none, false⟩

def failed (error : String) : Reply := ⟨false, none, some error, false⟩

def late (error : String) : Reply := ⟨false, none, some error, true⟩

/-
  The output, if it is a text.
-/
def text? (r : Reply) : Option String := r.output.bind Json.text?

end Reply

namespace Request

/-
  A request with the defaults of some settings.
-/
def ofCode (code : String) (s : SandboxSettings) : Request :=
  { code, timeoutMs := s.defaultTimeoutMs, memoryMb := s.defaultMemoryMb }

/-
  A request from a document; what is missing takes the general defaults.
-/
def ofJson? (v : Json) : Option Request := do
  let d := ofCode "" {}
  let fields ← Format.json.record? ["code", "timeout_ms", "memory_limit_mb", "dynamic_code"] v
  pure {
    code := ← Format.field fields "code" d.code Json.text?
    timeoutMs := ← Format.field fields "timeout_ms" d.timeoutMs Json.nat?
    memoryMb := ← Format.field fields "memory_limit_mb" d.memoryMb Json.nat?
    dynamicCode := ← Format.field fields "dynamic_code" d.dynamicCode
      fun n => (Json.choice? n).bind Realm.DynamicCode.ofName? }

/-
  Sums and products stop at the largest number of sixty-four bits.
-/
def saturate (n : Nat) : Nat := min n (Nat.pow 2 64 - 1)

/-
  The rounds of loops that any request gets.
-/
def leastIterations : Nat := 1000

def stackSize : Nat := 1048576

/-
  The limits of the realm in which a request is run.
-/
def limits (r : Request) (s : SandboxSettings) : Realm.Limits :=
  { loopIterations := max (saturate (r.timeoutMs * s.loopIterationsPerMs)) leastIterations
    recursion := s.recursionLimit
    stackSize
    maxStringLength := saturate (r.memoryMb * 1048576) / 2
    dynamicCode := r.dynamicCode }

/-
  The time after which nobody waits for an answer.
-/
def hardMs (r : Request) (s : SandboxSettings) : Nat := saturate (r.timeoutMs + s.graceMs)

end Request

------------------------------------------------------------
-- Workers
------------------------------------------------------------

/-
  How a worker ended: with an outcome, not before the deadline, or in some other way.
-/
inductive Ending where
  | answered (outcome : Realm.Outcome)
  | deadline
  | crashed (message : String)
  deriving Repr

/-
  What starts workers, on a thread or with a program.
-/
structure Host where
  onThread : Job → Ending
  inProcess : String → Job → Ending

/-
  The ending of a worker that may give no answer.
-/
def Ending.ofOutcome : Option Realm.Outcome → Ending
  | some outcome => .answered outcome
  | none => .deadline

/-
  What the sandbox makes of the way a worker process ends.
-/
def Ending.ofService : Service → Ending
  | .answered reply =>
    match (Json.parse reply).bind Realm.Outcome.ofJson? with
    | some outcome => .answered outcome
    | none => .crashed "sandbox worker exited unexpectedly"
  | .refused => .crashed "sandbox worker exited unexpectedly"
  | .silent => .deadline

def missingProgram (program : String) : Ending :=
  .crashed ("failed to start sandbox worker " ++ program
    ++ ": No such file or directory (os error 2)")

/-
  A host on which some programs are workers and all others are missing.
-/
def Host.ofPrograms (evaluate : Evaluator) (programs : List String) : Host where
  onThread job := .ofOutcome (evaluate job.code job.limits)
  inProcess program job :=
    if programs.contains program then .ofService (serve evaluate job.toJson.compact)
    else missingProgram program

end Sandbox

------------------------------------------------------------
-- The Sandbox
------------------------------------------------------------

structure Sandbox where
  settings : SandboxSettings
  gate : Limiter
  /- a worker program that was found although the settings name none -/
  foundProgram : Option String

namespace Sandbox

def ofSettings (settings : SandboxSettings) (foundProgram : Option String := none) : Sandbox :=
  ⟨settings, Limiter.ofCapacity settings.maxConcurrency, foundProgram⟩

/-
  The program that runs requests in a process of their own, if there is one.
-/
def worker? (s : Sandbox) : Option String :=
  match s.settings.isolation with
  | .thread => none
  | .auto | .process => s.settings.workerProgram <|> s.foundProgram

/-
  The file name of the program that is looked for.
-/
def workerName : String := "js-vmp-sandbox"

/-
  What a request is told of the way its worker ended.
-/
def report (s : Sandbox) (r : Request) : Ending → Reply
  | .answered (.completed output) => .succeeded output
  | .answered (.failed error) => .failed error
  | .answered (.limitExceeded error) => .late ("execution limit reached: " ++ error)
  | .deadline => .late ("no response within " ++ toString (r.hardMs s.settings) ++ " ms")
  | .crashed error => .failed error

/-
  What the worker of a request is told.
-/
def job (s : Sandbox) (r : Request) : Job :=
  ⟨r.code, r.limits s.settings⟩

/-
  A worker thread that has not exited.  It has the slot of its request until it does.
-/
inductive Thread where
  /- has answered -/
  | answered
  /- was given up at the deadline -/
  | abandoned
  deriving DecidableEq, Repr

/-
  The thread that a request leaves behind.  One that was never started or that crashed is
  gone already.
-/
def Ending.thread? : Ending → Option Thread
  | .answered _ => some .answered
  | .deadline => some .abandoned
  | .crashed _ => none

/-
  Runs a request that has got a slot, and tells which thread is left with it.
-/
def dispatch (s : Sandbox) (host : Host) (r : Request) : Reply × Option Thread :=
  match s.worker? with
  | some program => (s.report r (host.inProcess program (s.job r)), none)
  | none =>
    if s.settings.isolation == .process then
      (.failed ("sandbox worker program " ++ workerName ++ " not found"), none)
    else
      let ending := host.onThread (s.job r)
      (s.report r ending, ending.thread?)

def free (s : Sandbox) : Sandbox :=
  { s with gate := s.gate.release }

/-
  Runs a request up to its reply.  A thread that is left keeps the slot; otherwise the
  slot is free again.
-/
def call (s : Sandbox) (host : Host) (r : Request) : Reply × Option Thread × Sandbox :=
  let size := r.code.utf8ByteSize
  if size > s.settings.maxCodeBytes then
    (.failed ("code of " ++ toString size ++ " bytes exceeds the "
      ++ toString s.settings.maxCodeBytes ++ " byte limit"), none, s)
  else
    match s.gate.acquire with
    | none => (.late "no sandbox slot became free before the deadline", none, s)
    | some gate =>
      let s := { s with gate }
      let (reply, thread?) := s.dispatch host r
      (reply, thread?, if thread?.isSome then s else s.free)

/-
  Runs a request; a thread that has answered has exited afterwards.
-/
def execute (s : Sandbox) (host : Host) (r : Request) : Reply × Sandbox :=
  let (reply, thread?, s) := s.call host r
  (reply, if thread? = some .answered then s.free else s)

/-
  Runs requests one after the other.
-/
def executeAll (s : Sandbox) (host : Host) : List Request → List Reply
  | [] => []
  | r :: rest =>
    let (reply, next) := s.execute host r
    reply :: next.executeAll host rest

------------------------------------------------------------
-- Requests and Exits
------------------------------------------------------------

/-
  A sandbox with the threads that its requests have left behind, in order.
-/
structure Crew where
  sandbox : Sandbox
  threads : List Thread

namespace Crew

/-
  A request is run, on a host of its own, or one of the threads exits.  A request stands
  where it gets its slot or is refused: exits that it waits for come before.
-/
inductive Event where
  | call (host : Host) (request : Request)
  | exit (thread : Nat)

def ofSettings (settings : SandboxSettings) (foundProgram : Option String) : Crew :=
  ⟨Sandbox.ofSettings settings foundProgram, []⟩

def step (c : Crew) : Event → Crew
  | .call host r =>
    let (_, thread?, s) := c.sandbox.call host r
    ⟨s, c.threads ++ thread?.toList⟩
  | .exit k =>
    if k < c.threads.length then ⟨c.sandbox.free, c.threads.eraseIdx k⟩ else c

def after (c : Crew) (events : List Event) : Crew :=
  events.foldl step c

end Crew

end Sandbox

end Devirt

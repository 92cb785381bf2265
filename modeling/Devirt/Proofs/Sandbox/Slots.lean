import Devirt.Sandbox.Execute

/-
  The slots of a sandbox are those of the threads it left
  behind.

  A request gives its slot back on every way but one: on a
  thread that is still there the slot stays with the thread.
  A thread that has answered exits, so what remains are the
  threads that were given up at their deadline.

  Main declarations:
    * `Sandbox.StartsThread`, requests that get to a thread
    * `Sandbox.call_eq_of_thread`,
      `Sandbox.call_eq_of_noThread`
    * `Sandbox.Crew.after_slots`
    * `Sandbox.slots_eq_threads`
-/

------------------------------------------------------------
-- One Request
------------------------------------------------------------

namespace Devirt

namespace Sandbox

/-
  A request gets to a thread if it is neither too long nor
  refused at the gate, and no process is asked for.
-/
def StartsThread
    (s : Sandbox)
    (r : Request) :
    Prop :=
  r.code.utf8ByteSize ≤ s.settings.maxCodeBytes ∧
    s.gate.inUse < s.gate.capacity ∧
    s.worker? = none ∧
    s.settings.isolation ≠ .process

/- A sandbox in which one more slot is taken. -/
def taken (s : Sandbox) : Sandbox :=
  { s with gate := { s.gate with inUse := s.gate.inUse + 1 } }

@[simp]
theorem taken_inUse
    (s : Sandbox) :
    s.taken.gate.inUse = s.gate.inUse + 1 :=
  rfl

/- What was taken last is free again. -/
@[simp]
theorem free_taken
    (s : Sandbox) :
    s.taken.free = s :=
  rfl

/- Taking a slot changes neither the worker nor its job. -/
@[simp]
theorem dispatch_taken
    (s : Sandbox)
    (host : Host)
    (r : Request) :
    s.taken.dispatch host r = s.dispatch host r :=
  rfl

/- Only a request on a thread can leave one. -/
theorem dispatch_thread?_of_noThread
    {s : Sandbox}
    (host : Host)
    (r : Request)
    (hNoThread :
      ¬ (s.worker? = none ∧ s.settings.isolation ≠ .process)) :
    (s.dispatch host r).2 = none := by
  cases hWorker : s.worker? with
  | some program => simp [dispatch, hWorker]
  | none =>
      by_cases hProcess : s.settings.isolation = .process
      · simp [dispatch, hWorker, hProcess]
      · exact absurd ⟨hWorker, hProcess⟩ hNoThread

theorem dispatch_thread?_of_thread
    {s : Sandbox}
    (host : Host)
    (r : Request)
    (hWorker : s.worker? = none)
    (hThread : s.settings.isolation ≠ .process) :
    (s.dispatch host r).2 =
      (host.onThread (s.job r)).thread? := by
  simp [dispatch, hWorker, hThread]

/- A request that gets no slot leaves everything alone. -/
theorem call_eq_of_noSlot
    {s : Sandbox}
    (host : Host)
    {r : Request}
    (hNoSlot :
      ¬ (r.code.utf8ByteSize ≤ s.settings.maxCodeBytes ∧
        s.gate.inUse < s.gate.capacity)) :
    (s.call host r).2 = (none, s) := by
  unfold call
  dsimp only
  split
  · rfl
  · next hSize =>
      have hFull : ¬ s.gate.inUse < s.gate.capacity := by
        intro hFree
        exact hNoSlot ⟨Nat.le_of_not_gt hSize, hFree⟩
      simp only [Limiter.acquire, if_neg hFull]

theorem call_eq_of_slot
    {s : Sandbox}
    (host : Host)
    {r : Request}
    (hSize : r.code.utf8ByteSize ≤ s.settings.maxCodeBytes)
    (hFree : s.gate.inUse < s.gate.capacity) :
    (s.call host r).2 =
      ((s.dispatch host r).2,
        if (s.dispatch host r).2.isSome then s.taken else s) := by
  simp only [call, if_neg (Nat.not_lt.mpr hSize),
    Limiter.acquire, if_pos hFree]
  change
    ((s.taken.dispatch host r).2,
      if (s.taken.dispatch host r).2.isSome then s.taken
      else s.taken.free) = _
  rw [dispatch_taken, free_taken]

/- Without a thread the slots are as they were. -/
theorem call_eq_of_noThread
    {s : Sandbox}
    (host : Host)
    {r : Request}
    (hNoThread : ¬ s.StartsThread r) :
    (s.call host r).2 = (none, s) := by
  by_cases hSlot :
      r.code.utf8ByteSize ≤ s.settings.maxCodeBytes ∧
        s.gate.inUse < s.gate.capacity
  · have hDispatch : (s.dispatch host r).2 = none := by
      apply dispatch_thread?_of_noThread
      intro hThread
      exact hNoThread ⟨hSlot.1, hSlot.2, hThread⟩
    rw [call_eq_of_slot host hSlot.1 hSlot.2, hDispatch]
    rfl
  · exact call_eq_of_noSlot host hSlot

/- With one, the thread that is left has the slot. -/
theorem call_eq_of_thread
    {s : Sandbox}
    (host : Host)
    {r : Request}
    (hThread : s.StartsThread r) :
    (s.call host r).2 =
      ((host.onThread (s.job r)).thread?,
        if (host.onThread (s.job r)).thread?.isSome then s.taken
        else s) := by
  rcases hThread with ⟨hSize, hFree, hWorker, hIsolation⟩
  rw [call_eq_of_slot host hSize hFree,
    dispatch_thread?_of_thread host r hWorker hIsolation]

/-
  Every call takes one slot for each thread it leaves, and no
  other.
-/
theorem call_slots
    (s : Sandbox)
    (host : Host)
    (r : Request) :
    (s.call host r).2.2.gate.inUse =
      s.gate.inUse + (s.call host r).2.1.toList.length := by
  by_cases hThread : s.StartsThread r
  · rw [call_eq_of_thread host hThread]
    cases (host.onThread (s.job r)).thread? <;> rfl
  · rw [call_eq_of_noThread host hThread]
    rfl

/- What remains of a call once its thread has exited. -/
theorem execute_snd
    (s : Sandbox)
    (host : Host)
    (r : Request) :
    (s.execute host r).2 =
      if (s.call host r).2.1 = some .answered then
        (s.call host r).2.2.free
      else (s.call host r).2.2 :=
  rfl

theorem execute_of_noThread
    {s : Sandbox}
    (host : Host)
    {r : Request}
    (hNoThread : ¬ s.StartsThread r) :
    (s.execute host r).2 = s := by
  rw [execute_snd, call_eq_of_noThread host hNoThread]
  rfl

/- Only a thread that was given up keeps a slot. -/
theorem execute_of_thread
    {s : Sandbox}
    (host : Host)
    {r : Request}
    (hThread : s.StartsThread r) :
    (host.onThread (s.job r) = .deadline →
        (s.execute host r).2 = s.taken) ∧
      (host.onThread (s.job r) ≠ .deadline →
        (s.execute host r).2 = s) := by
  rw [execute_snd, call_eq_of_thread host hThread]
  cases host.onThread (s.job r) with
  | answered outcome => simp [Ending.thread?]
  | deadline => simp [Ending.thread?]
  | crashed message => simp [Ending.thread?]

end Sandbox

end Devirt

------------------------------------------------------------
-- Requests and Exits
------------------------------------------------------------

namespace Devirt

namespace Sandbox

namespace Crew

theorem step_slots
    {c : Crew}
    (e : Event)
    (hSlots : c.sandbox.gate.inUse = c.threads.length) :
    (c.step e).sandbox.gate.inUse =
      (c.step e).threads.length := by
  cases e with
  | call host r =>
      simp only [step, List.length_append]
      rw [call_slots, hSlots]
  | exit k =>
      simp only [step]
      split
      · next hThread =>
          rw [List.length_eraseIdx_of_lt hThread, ← hSlots]
          rfl
      · exact hSlots

theorem after_slots
    {c : Crew}
    (events : List Event)
    (hSlots : c.sandbox.gate.inUse = c.threads.length) :
    (c.after events).sandbox.gate.inUse =
      (c.after events).threads.length := by
  induction events generalizing c with
  | nil => exact hSlots
  | cons e rest ih => exact ih (step_slots e hSlots)

/- A thread that has not answered was given up. -/
theorem length_eq_abandoned
    {threads : List Thread}
    (hExited : .answered ∉ threads) :
    threads.length = threads.count .abandoned := by
  symm
  rw [List.count_eq_length]
  intro thread hMember
  cases thread with
  | answered => exact absurd hMember hExited
  | abandoned => rfl

end Crew

/-
  After any requests, whatever becomes of their workers, and
  any exits of threads, each thread that is left has a slot
  and nobody else has one; those are the abandoned threads
  once all that have answered have exited.  A request that
  gets to no thread leaves the slots as it found them.  One
  on a thread leaves one slot more taken exactly if it was
  given up at its deadline.
-/
theorem slots_eq_threads
    (settings : SandboxSettings)
    (foundProgram : Option String)
    (events : List Crew.Event) :
    let c := (Crew.ofSettings settings foundProgram).after events
    c.sandbox.gate.inUse = c.threads.length ∧
      (.answered ∉ c.threads →
        c.sandbox.gate.inUse = c.threads.count .abandoned) ∧
      ∀ host r,
        let next := (c.sandbox.execute host r).2
        let left := (c.step (.call host r)).threads
        let ending := host.onThread (c.sandbox.job r)
        (¬ c.sandbox.StartsThread r →
            left = c.threads ∧
              next.gate.inUse = c.sandbox.gate.inUse) ∧
          (c.sandbox.StartsThread r →
            left = c.threads ++ ending.thread?.toList ∧
              (ending = .deadline →
                next.gate.inUse = c.sandbox.gate.inUse + 1) ∧
              (ending ≠ .deadline →
                next.gate.inUse = c.sandbox.gate.inUse)) := by
  intro c
  have hSlots : c.sandbox.gate.inUse = c.threads.length :=
    Crew.after_slots events rfl
  refine ⟨hSlots, ?_, ?_⟩
  · intro hExited
    rw [hSlots]
    exact Crew.length_eq_abandoned hExited
  · intro host r next left ending
    have hLeft :
        left =
          c.threads ++ (c.sandbox.call host r).2.1.toList :=
      rfl
    refine ⟨?_, ?_⟩
    · intro hNoThread
      have hNext : next = c.sandbox :=
        execute_of_noThread host hNoThread
      rw [hLeft, call_eq_of_noThread host hNoThread, hNext]
      simp
    · intro hThread
      rcases execute_of_thread host hThread with
        ⟨hAbandoned, hOther⟩
      refine ⟨?_, ?_, ?_⟩
      · rw [hLeft, call_eq_of_thread host hThread]
      · intro hDeadline
        have hNext : next = c.sandbox.taken :=
          hAbandoned hDeadline
        rw [hNext, taken_inUse]
      · intro hInTime
        have hNext : next = c.sandbox := hOther hInTime
        rw [hNext]

end Sandbox

end Devirt

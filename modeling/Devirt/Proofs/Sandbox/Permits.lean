import Devirt.Sandbox.Limiter

/-
  The slots of a gate are the permits that its clients hold.

  Clients come, wait, wake up, look again and drop their
  permits in any order, and time passes in between.  One step
  grants one permit and takes one slot, drops one permit and
  gives one slot back, or leaves both alone.  So the number of
  slots in use is always the number of permits held.  A slot
  given back was in use, and a request is refused only while
  all slots are.

  Main declarations:
    * `Limiter.Clients.Effect`, what one step does
    * `Limiter.Clients.Accounted`, kept by every step
    * `Limiter.Clients.Accounted.after`
    * `Limiter.slots_eq_permits`
-/

------------------------------------------------------------
-- One Look
------------------------------------------------------------

namespace Devirt

namespace Limiter

/- A free slot is taken by whoever looks. -/
theorem look_of_free
    {l : Limiter}
    (now deadline : Nat)
    (hFree : l.inUse < l.capacity) :
    l.look now deadline =
      (.holding, { l with inUse := l.inUse + 1 }) := by
  rw [look, acquire, if_pos hFree]

/- Without one the gate stays as it is. -/
theorem look_of_full
    {l : Limiter}
    (now deadline : Nat)
    (hFull : l.capacity ≤ l.inUse) :
    l.look now deadline =
      (if deadline ≤ now then .refused
        else .waiting deadline false, l) := by
  rw [look, acquire, if_neg (Nat.not_lt.mpr hFull)]

/- Only who looks too late at a full gate is refused. -/
theorem look_refused_iff
    (l : Limiter)
    (now deadline : Nat) :
    (l.look now deadline).1 = .refused ↔
      l.capacity ≤ l.inUse ∧ deadline ≤ now := by
  rcases Nat.lt_or_ge l.inUse l.capacity with hFree | hFull
  · rw [look_of_free now deadline hFree]
    constructor
    · intro hRefused
      cases hRefused
    · intro ⟨hFull, _⟩
      omega
  · rw [look_of_full now deadline hFull]
    by_cases hLate : deadline ≤ now
    · simp [hLate, hFull]
    · simp [hLate]

end Limiter

end Devirt

------------------------------------------------------------
-- Counting Permits
------------------------------------------------------------

namespace Devirt

namespace Limiter

/- The permits that a request at some stage holds. -/
def Stage.permits (stage : Stage) : Nat :=
  if stage = .holding then 1 else 0

theorem Stage.permits_wake
    (stage : Stage) :
    stage.wake.permits = stage.permits := by
  cases stage <;> rfl

theorem Stage.wake_eq_refused_iff
    (stage : Stage) :
    stage.wake = .refused ↔ stage = .refused := by
  cases stage <;> simp [Stage.wake]

theorem Stage.count_cons
    (stage : Stage)
    (rest : List Stage) :
    (stage :: rest).count .holding =
      rest.count .holding + stage.permits := by
  rw [List.count_cons]
  simp [permits]

/- Waking someone up grants nothing. -/
theorem Stage.count_modify_wake
    (stages : List Stage)
    (k : Nat) :
    (stages.modify k wake).count .holding =
      stages.count .holding := by
  induction stages generalizing k with
  | nil => simp
  | cons first rest ih =>
      cases k with
      | zero =>
          rw [List.modify_zero_cons, count_cons, count_cons,
            permits_wake]
      | succ k =>
          rw [List.modify_succ_cons, count_cons, count_cons,
            ih]

/- A change of stage changes the count by what they hold. -/
theorem Stage.count_set
    {stages : List Stage}
    {k : Nat}
    {old : Stage}
    (new : Stage)
    (hOld : stages[k]? = some old) :
    (stages.set k new).count .holding + old.permits =
      stages.count .holding + new.permits := by
  rcases List.getElem?_eq_some_iff.mp hOld with
    ⟨hPlace, hStage⟩
  have hCounted :
      old = .holding → 0 < stages.count .holding := by
    intro hHolding
    exact List.count_pos_iff.mpr
      (List.mem_of_getElem? (hHolding ▸ hOld))
  rw [List.count_set hPlace, hStage]
  simp only [permits, beq_iff_eq]
  split
  · have hPos := hCounted ‹_›
    omega
  · omega

namespace Clients

@[simp]
theorem wake_held
    (c : Clients)
    (k : Nat) :
    (c.wake k).held = c.held :=
  Stage.count_modify_wake c.requests k

@[simp]
theorem notify_gate
    (c : Clients)
    (k : Nat) :
    (c.notify k).gate = c.gate :=
  rfl

@[simp]
theorem notify_held
    (c : Clients)
    (k : Nat) :
    (c.notify k).held = c.held :=
  wake_held c _

/- Waking someone up refuses nobody. -/
theorem wake_refused_iff
    (c : Clients)
    (k i : Nat) :
    (c.wake k).requests[i]? = some .refused ↔
      c.requests[i]? = some .refused := by
  simp only [wake, List.getElem?_modify]
  cases c.requests[i]? with
  | none => simp
  | some stage =>
      by_cases hSame : k = i
      · simp [hSame, Stage.wake_eq_refused_iff]
      · simp [hSame]

end Clients

end Limiter

end Devirt

------------------------------------------------------------
-- One Step
------------------------------------------------------------

namespace Devirt

namespace Limiter

namespace Clients

/- What one step can do to the gate and the permits. -/
inductive Effect (c next : Clients) : Prop where
  | keeps
      (hGate : next.gate = c.gate)
      (hHeld : next.held = c.held)
  | grants
      (hFree : c.gate.inUse < c.gate.capacity)
      (hGate :
        next.gate = { c.gate with inUse := c.gate.inUse + 1 })
      (hHeld : next.held = c.held + 1)
  | drops
      (hGate : next.gate = c.gate.release)
      (hHeld : next.held + 1 = c.held)

/-
  A look has an effect if the permits change by those of the
  stage that it leads to.
-/
theorem effect_of_look
    {c next : Clients}
    (deadline : Nat)
    (hGate : next.gate = (c.gate.look c.now deadline).2)
    (hHeld :
      next.held =
        c.held + (c.gate.look c.now deadline).1.permits) :
    Effect c next := by
  rcases Nat.lt_or_ge c.gate.inUse c.gate.capacity with
    hFree | hFull
  · rw [look_of_free c.now deadline hFree] at hGate hHeld
    exact .grants hFree hGate hHeld
  · rw [look_of_full c.now deadline hFull] at hGate hHeld
    refine .keeps hGate ?_
    rw [hHeld]
    split <;> rfl

theorem step_effect
    (c : Clients)
    (e : Event) :
    Effect c (c.step e).2 := by
  cases e with
  | request deadline =>
      apply effect_of_look deadline rfl
      simp only [step, held, List.count_append]
      rw [Stage.count_cons, List.count_nil, Nat.zero_add]
  | wake k => exact .keeps rfl (wake_held c k)
  | lookAgain k =>
      simp only [step]
      split
      · next deadline hAwake =>
          apply effect_of_look deadline rfl
          have hCount :=
            Stage.count_set
              (c.gate.look c.now deadline).1 hAwake
          simpa [held, Stage.permits] using hCount
      · exact .keeps rfl rfl
  | drop k woken =>
      simp only [step]
      split
      · next hHolding =>
          have hCount := Stage.count_set .finished hHolding
          refine .drops (notify_gate _ woken) ?_
          rw [notify_held]
          simpa [held, Stage.permits] using hCount
      · exact .keeps rfl rfl
  | pass time => exact .keeps rfl rfl

/-
  A step that refuses a request finds its deadline passed and
  all slots taken, and leaves the gate alone.
-/
theorem step_refuses
    {c : Clients}
    {e : Event}
    {k : Nat}
    (hBefore : c.requests[k]? ≠ some .refused)
    (hAfter : (c.step e).2.requests[k]? = some .refused) :
    (∃ deadline ≤ c.now,
        e = .request deadline ∧ k = c.requests.length ∨
          e = .lookAgain k ∧
            c.requests[k]? = some (.waiting deadline true)) ∧
      c.gate.capacity ≤ c.gate.inUse ∧
      (c.step e).2.gate = c.gate := by
  cases e with
  | request deadline =>
      have hLook :
          (c.gate.look c.now deadline).1 = .refused ∧
            k = c.requests.length := by
        simp only [step] at hAfter
        rcases Nat.lt_trichotomy k c.requests.length with
          hOld | hNew | hNone
        · rw [List.getElem?_append_left hOld] at hAfter
          exact absurd hAfter hBefore
        · rw [hNew, List.getElem?_concat_length] at hAfter
          exact ⟨Option.some.inj hAfter, hNew⟩
        · rw [List.getElem?_eq_none (by simp; omega)] at hAfter
          cases hAfter
      rcases (look_refused_iff _ _ _).mp hLook.1 with
        ⟨hFull, hLate⟩
      refine ⟨⟨deadline, hLate, Or.inl ⟨rfl, hLook.2⟩⟩, hFull, ?_⟩
      simp only [step, look_of_full _ _ hFull]
  | wake j =>
      exact absurd ((wake_refused_iff c j k).mp hAfter) hBefore
  | lookAgain j =>
      simp only [step] at hAfter ⊢
      split at hAfter
      · next deadline hAwake =>
          by_cases hSame : j = k
          · subst hSame
            have hPlace := (List.getElem?_eq_some_iff.mp hAwake).1
            rw [List.getElem?_set_self hPlace] at hAfter
            rcases (look_refused_iff _ _ _).mp
                (Option.some.inj hAfter) with ⟨hFull, hLate⟩
            refine
              ⟨⟨deadline, hLate, Or.inr ⟨rfl, hAwake⟩⟩,
                hFull, ?_⟩
            simp only [look_of_full _ _ hFull]
          · rw [List.getElem?_set_ne hSame] at hAfter
            exact absurd hAfter hBefore
      · exact absurd hAfter hBefore
  | drop j woken =>
      simp only [step] at hAfter
      split at hAfter
      · next hHolding =>
          have hDropped := (wake_refused_iff _ _ k).mp hAfter
          by_cases hSame : j = k
          · subst hSame
            have hPlace := (List.getElem?_eq_some_iff.mp hHolding).1
            rw [List.getElem?_set_self hPlace] at hDropped
            cases hDropped
          · rw [List.getElem?_set_ne hSame] at hDropped
            exact absurd hDropped hBefore
      · exact absurd hAfter hBefore
  | pass time => exact absurd hAfter hBefore

end Clients

end Limiter

end Devirt

------------------------------------------------------------
-- All Orders of Steps
------------------------------------------------------------

namespace Devirt

namespace Limiter

namespace Clients

/- The slots in use are the permits held, and no others. -/
structure Accounted (c : Clients) : Prop where
  inUse_eq : c.gate.inUse = c.held
  inUse_le : c.gate.inUse ≤ c.gate.capacity

theorem accounted_ofCapacity
    (capacity : Nat) :
    (ofCapacity capacity).Accounted :=
  ⟨rfl, Nat.zero_le _⟩

theorem Effect.capacity_eq
    {c next : Clients}
    (hEffect : Effect c next) :
    next.gate.capacity = c.gate.capacity := by
  cases hEffect with
  | keeps hGate _ => rw [hGate]
  | grants _ hGate _ => rw [hGate]
  | drops hGate _ =>
      rw [hGate]
      rfl

theorem Effect.accounted
    {c next : Clients}
    (hEffect : Effect c next)
    (hAccounted : c.Accounted) :
    next.Accounted := by
  rcases hAccounted with ⟨hEq, hLe⟩
  cases hEffect with
  | keeps hGate hHeld =>
      refine ⟨?_, ?_⟩
      · rw [hGate, hHeld, hEq]
      · rw [hGate]
        exact hLe
  | grants hFree hGate hHeld =>
      refine ⟨?_, ?_⟩
      · rw [hGate, hHeld, hEq]
      · rw [hGate]
        exact hFree
  | drops hGate hHeld =>
      rw [hEq] at hLe
      refine ⟨?_, ?_⟩
      · rw [hGate, release]
        dsimp only
        omega
      · rw [hGate, release]
        dsimp only
        omega

/- Whatever happens at a gate, its slots stay accounted for. -/
theorem Accounted.after
    {c : Clients}
    (hAccounted : c.Accounted)
    (events : List Event) :
    (c.after events).gate.capacity = c.gate.capacity ∧
      (c.after events).Accounted := by
  induction events generalizing c with
  | nil => exact ⟨rfl, hAccounted⟩
  | cons e rest ih =>
      have hEffect := step_effect c e
      rcases ih (hEffect.accounted hAccounted) with
        ⟨hCapacity, hRest⟩
      exact ⟨hCapacity.trans hEffect.capacity_eq, hRest⟩

/- A permit that is held has a slot to give back. -/
theorem Accounted.release_succ
    {c : Clients}
    {k : Nat}
    (hAccounted : c.Accounted)
    (hHolding : c.requests[k]? = some .holding) :
    c.gate.release.inUse + 1 = c.gate.inUse := by
  have hPos : 0 < c.held :=
    List.count_pos_iff.mpr (List.mem_of_getElem? hHolding)
  rw [← hAccounted.inUse_eq] at hPos
  simp only [release]
  omega

end Clients

/-
  In whichever order the clients of a gate take their steps,
  the slots in use are the permits granted and not yet
  dropped, and at most as many as there are.  Each drop of a
  permit that is held gives back a slot that was in use.  A
  request is refused only once its deadline has passed and
  while all slots are in use, and that leaves the gate alone.
-/
theorem slots_eq_permits
    (capacity : Nat)
    (events : List Event) :
    let c := (Clients.ofCapacity capacity).after events
    (c.gate.inUse = c.held ∧
        c.gate.inUse ≤ max capacity 1) ∧
      (∀ k woken, c.requests[k]? = some .holding →
        let next := (c.step (.drop k woken)).2
        next.gate = c.gate.release ∧
          next.gate.inUse + 1 = c.gate.inUse) ∧
      ∀ e k, c.requests[k]? ≠ some .refused →
        let next := (c.step e).2
        next.requests[k]? = some .refused →
          (∃ deadline ≤ c.now,
              e = .request deadline ∧ k = c.requests.length ∨
                e = .lookAgain k ∧
                  c.requests[k]? =
                    some (.waiting deadline true)) ∧
            c.gate.inUse = max capacity 1 ∧
            next.gate = c.gate := by
  intro c
  rcases (Clients.accounted_ofCapacity capacity).after events with
    ⟨hSame, hAccounted⟩
  have hCapacity : c.gate.capacity = max capacity 1 := hSame
  refine ⟨⟨hAccounted.inUse_eq, ?_⟩, ?_, ?_⟩
  · rw [← hCapacity]
    exact hAccounted.inUse_le
  · intro k woken hHolding next
    have hGate : next.gate = c.gate.release := by
      simp only [next, Clients.step, hHolding,
        Clients.notify_gate]
    refine ⟨hGate, ?_⟩
    rw [hGate]
    exact hAccounted.release_succ hHolding
  · intro e k hBefore next hAfter
    rcases Clients.step_refuses hBefore hAfter with
      ⟨hLate, hFull, hGate⟩
    refine ⟨hLate, ?_, hGate⟩
    rw [← hCapacity]
    exact Nat.le_antisymm hAccounted.inUse_le hFull

/-
  The second client is woken by the first one's drop, but a
  third takes the slot before it looks, and then its deadline
  has passed.
-/
example :
    let c :=
      (Clients.ofCapacity 0).after
        [.request, .request 5, .drop 0 1, .request, .pass 7,
          .lookAgain 1]
    c.requests = [.finished, .refused, .holding] ∧
      c.gate.inUse = 1 := by
  decide

end Limiter

end Devirt

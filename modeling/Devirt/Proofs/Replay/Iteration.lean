import Devirt.Replay.Run
import Mathlib.Data.List.Iterate

/-
  Replays as bounded iterations of one step.

  A replay is determined by the machines that are reached
  from the initial one by executing, again and again, the
  instruction at the program counter.  The trace lists their
  states up to the first that halts, leaves the program or
  uses up the steps.

  Main declarations:
    * `Instruction.Halts`
    * `Instruction.successor`, the rule for the program
      counter, and `Machine.step_pc`
    * `Machine.next`, one step of a program
    * `Run.Follows` and `Run.continue_follows`
    * `IsBoundedIteration` and
      `executeTimed_isBoundedIteration`
-/

------------------------------------------------------------
-- Successors
------------------------------------------------------------

namespace Devirt

namespace Instruction

/-
  The name of an instruction is a word, whatever the case of
  its letters and the blanks around it.
-/
def IsNamed
    (i : Instruction)
    (word : String) : Prop :=
  (Text.trim i.name).toList.map Char.toUpper = word.toList

instance (i : Instruction) (word : String) :
    Decidable (i.IsNamed word) :=
  inferInstanceAs (Decidable (_ = _))

theorem isNamed_iff
    (i : Instruction)
    (m : Mnemonic) :
    i.IsNamed m.name ↔ Mnemonic.ofName? i.name = some m :=
  Mnemonic.ofName?_eq_some_iff.symm

/- The instruction is the one that ends a replay. -/
def Halts (i : Instruction) : Prop :=
  i.IsNamed "HALT"

theorem halts_iff
    (i : Instruction) :
    i.Halts ↔ Mnemonic.ofName? i.name = some .halt :=
  i.isNamed_iff .halt

/-
  The program counter after an instruction: a jump goes to
  its target if it has one, a halt stays, everything else
  goes on.
-/
def successor
    (i : Instruction)
    (pc : Nat) :
    Nat :=
  if i.IsNamed "JMP" ∨ i.IsNamed "JZ" ∨ i.IsNamed "JNZ" then
    i.index?.getD (pc + 1)
  else if i.IsNamed "HALT" then
    pc
  else
    pc + 1

/- The successor by the mnemonic that the name stands for. -/
theorem successor_eq
    (i : Instruction)
    (pc : Nat) :
    i.successor pc =
      match Mnemonic.ofName? i.name with
      | some .jmp => i.index?.getD (pc + 1)
      | some .jz => i.index?.getD (pc + 1)
      | some .jnz => i.index?.getD (pc + 1)
      | some .halt => pc
      | _ => pc + 1 := by
  have hJmp := i.isNamed_iff .jmp
  have hJz := i.isNamed_iff .jz
  have hJnz := i.isNamed_iff .jnz
  have hHalt := i.isNamed_iff .halt
  simp only [Mnemonic.name] at hJmp hJz hJnz hHalt
  simp only [successor, hJmp, hJz, hJnz, hHalt]
  cases Mnemonic.ofName? i.name with
  | none => simp
  | some mnemonic => cases mnemonic <;> simp

/- Halting is the same by mnemonic and by action. -/
theorem ofInstruction_eq_halt_iff
    (i : Instruction) :
    Action.ofInstruction i = .halt ↔ i.Halts := by
  rw [halts_iff]
  unfold Action.ofInstruction
  cases hName : Mnemonic.ofName? i.name with
  | none =>
      cases hCategory : i.category <;>
        simp [Action.ofCategory, hCategory]
  | some mnemonic =>
      cases mnemonic <;> simp [Action.ofMnemonic]

end Instruction

end Devirt

------------------------------------------------------------
-- One Step
------------------------------------------------------------

namespace Devirt

namespace Replay

namespace Machine

@[simp] theorem recognise_state
    (m : Machine)
    (i : Instruction) :
    (m.recognise i).state = m.state := by
  unfold recognise
  split <;> rfl

@[simp] theorem recognise_underflows
    (m : Machine)
    (i : Instruction) :
    (m.recognise i).underflows = m.underflows := by
  unfold recognise
  split <;> rfl

@[simp] theorem target_fst
    (m : Machine)
    (length : Nat)
    (i : Instruction) :
    (m.target length i).1 = i.index? := by
  unfold target
  split
  · simp [*]
  · split <;> simp [*]

@[simp] theorem target_state
    (m : Machine)
    (length : Nat)
    (i : Instruction) :
    (m.target length i).2.state = m.state := by
  unfold target
  split
  · rfl
  · split <;> rfl

@[simp] theorem pop_pc
    (m : Machine) :
    m.pop.2.state.pc = m.state.pc := by
  unfold pop
  split <;> rfl

/- The program counter that an action leads to. -/
theorem perform_pc
    (length : Nat)
    (i : Instruction)
    (m : Machine)
    (action : Action) :
    (m.perform length i action).state.pc =
      match action with
      | .jump => i.index?.getD (m.state.pc + 1)
      | .branch _ => i.index?.getD (m.state.pc + 1)
      | .halt => m.state.pc
      | _ => m.state.pc + 1 := by
  cases action with
  | constant =>
      cases hOperands : i.operands <;>
        simp [perform, hOperands, push, advance, goto]
  | _ => simp [perform, push, advance, goto]

/-
  Warnings of a used-up budget are given at the end of a
  run only, never by a step.
-/
theorem budget_mem_pop_warnings
    (m : Machine)
    (steps pc : Nat) :
    Warning.budget steps pc ∈ m.pop.2.warnings ↔
      Warning.budget steps pc ∈ m.warnings := by
  unfold pop
  split <;> simp

theorem budget_mem_target_warnings
    (m : Machine)
    (length : Nat)
    (i : Instruction)
    (steps pc : Nat) :
    Warning.budget steps pc ∈
        (m.target length i).2.warnings ↔
      Warning.budget steps pc ∈ m.warnings := by
  unfold target
  split
  · simp [warn]
  · split <;> simp [warn]

theorem budget_mem_recognise_warnings
    (m : Machine)
    (i : Instruction)
    (steps pc : Nat) :
    Warning.budget steps pc ∈ (m.recognise i).warnings ↔
      Warning.budget steps pc ∈ m.warnings := by
  unfold recognise
  split <;> simp

theorem budget_mem_step_warnings
    (length : Nat)
    (i : Instruction)
    (m : Machine)
    (steps pc : Nat) :
    Warning.budget steps pc ∈ (m.step length i).warnings ↔
      Warning.budget steps pc ∈ m.warnings := by
  rw [← budget_mem_recognise_warnings m i]
  unfold step
  generalize m.recognise i = known
  cases Action.ofInstruction i with
  | constant =>
      cases hOperands : i.operands <;>
        simp [perform, hOperands, push, advance, goto]
  | _ =>
      simp [perform, push, advance, goto,
        budget_mem_pop_warnings,
        budget_mem_target_warnings]

/- A step goes to the successor of its instruction. -/
theorem step_pc
    (length : Nat)
    (i : Instruction)
    (m : Machine) :
    (m.step length i).state.pc = i.successor m.state.pc := by
  unfold step
  rw [perform_pc, recognise_state, Instruction.successor_eq]
  unfold Action.ofInstruction
  cases hName : Mnemonic.ofName? i.name with
  | none =>
      cases hCategory : i.category <;>
        simp [Action.ofCategory, hCategory]
  | some mnemonic =>
      cases mnemonic <;> simp [Action.ofMnemonic]

end Machine

------------------------------------------------------------
-- Runs
------------------------------------------------------------

namespace Machine

/-
  Executes the instruction at the program counter; outside
  the program nothing happens.
-/
def next
    (program : Array Instruction)
    (m : Machine) :
    Machine :=
  match program[m.state.pc]? with
  | some i => m.step program.size i
  | none => m

theorem next_of_instruction
    {program : Array Instruction}
    {m : Machine}
    {i : Instruction}
    (hAt : program[m.state.pc]? = some i) :
    m.next program = m.step program.size i := by
  simp [next, hAt]

theorem budget_mem_next_warnings
    (program : Array Instruction)
    (m : Machine)
    (steps pc : Nat) :
    Warning.budget steps pc ∈ (m.next program).warnings ↔
      Warning.budget steps pc ∈ m.warnings := by
  unfold next
  split
  · exact budget_mem_step_warnings _ _ _ _ _
  · rfl

/- No machine of a replay has warned of its budget. -/
theorem budget_notMem_iterate_warnings
    (program : Array Instruction)
    (count steps pc : Nat) :
    Warning.budget steps pc ∉
      ((next program)^[count] initial).warnings := by
  induction count with
  | zero => simp [initial]
  | succ count ih =>
      rw [Function.iterate_succ_apply',
        budget_mem_next_warnings]
      exact ih

end Machine

namespace Run

/-
  The warnings that are given when a run has ended after so
  many steps, with the program counter at the given place.
-/
def closing
    (program : Array Instruction)
    (bounds : Bounds)
    (steps pc : Nat) :
    Termination → List Warning
  | .stepBudget =>
      if bounds.budget < program.size then
        [.budget bounds.budget pc]
      else
        []
  | .timeout => [.timedOut bounds.milliseconds steps]
  | _ => []

theorem budget_mem_closing_iff
    (program : Array Instruction)
    (bounds : Bounds)
    (taken place steps pc : Nat)
    (termination : Termination) :
    Warning.budget steps pc ∈
        closing program bounds taken place termination ↔
      termination = .stepBudget ∧
        bounds.budget < program.size ∧
        steps = bounds.budget ∧ pc = place := by
  cases termination with
  | stepBudget =>
      by_cases hShort : bounds.budget < program.size <;>
        simp [closing, hShort]
  | _ => simp [closing]

/-
  A run that goes on from a machine after some steps, with
  some more left: it executes one instruction after the
  other and stops for the reason it gives.
-/
structure Follows
    (program : Array Instruction)
    (bounds : Bounds)
    (left taken : Nat)
    (m : Machine)
    (r : Run) : Prop where
  length_le : r.trace.length ≤ left
  trace_eq :
    r.trace =
      (List.iterate (Machine.next program) m
        r.trace.length).map (·.state)
  final_state :
    r.final.state =
      ((Machine.next program)^[r.trace.length] m).state
  final_warnings :
    r.final.warnings =
      ((Machine.next program)^[r.trace.length] m).warnings ++
        closing program bounds (taken + r.trace.length)
          r.final.state.pc r.termination
  pc_lt : ∀ s ∈ r.trace, s.pc < program.size
  halts_last :
    ∀ s ∈ r.trace.dropLast, ∀ i,
      program[s.pc]? = some i → ¬ i.Halts
  halted_iff :
    r.termination = .halted ↔
      ∃ s i, r.trace.getLast? = some s ∧
        program[s.pc]? = some i ∧ i.Halts
  outOfRange_iff :
    r.termination = .outOfRange ↔
      program.size ≤ r.final.state.pc
  stepBudget_length :
    r.termination = .stepBudget → r.trace.length = left
  timeout_expired :
    r.termination = .timeout →
      bounds.expired (taken + r.trace.length) = true

/- A step before a run is a step of the longer run. -/
theorem Follows.cons
    {program : Array Instruction}
    {bounds : Bounds}
    {left taken : Nat}
    {m : Machine}
    {r : Run}
    {i : Instruction}
    (hAt : program[m.state.pc]? = some i)
    (hGoesOn : ¬ i.Halts)
    (hRest :
      Follows program bounds left (taken + 1)
        (m.step program.size i) r) :
    Follows program bounds (left + 1) taken m
      { r with trace := m.state :: r.trace } := by
  have hNext := Machine.next_of_instruction hAt
  have hSum :
      taken + (r.trace.length + 1) =
        taken + 1 + r.trace.length := by
    omega
  refine
    { length_le := ?_, trace_eq := ?_, final_state := ?_,
      final_warnings := ?_, pc_lt := ?_, halts_last := ?_,
      halted_iff := ?_,
      outOfRange_iff := hRest.outOfRange_iff,
      stepBudget_length := ?_, timeout_expired := ?_ }
  · simpa using hRest.length_le
  · simp only [List.length_cons, List.iterate,
      List.map_cons, hNext]
    rw [← hRest.trace_eq]
  · simpa [hNext] using hRest.final_state
  · simpa [hNext, hSum] using hRest.final_warnings
  · intro s hMember
    rcases List.mem_cons.mp hMember with hHere | hLater
    · subst s
      exact (Array.getElem?_eq_some_iff.mp hAt).1
    · exact hRest.pc_lt s hLater
  · intro s hMember j hInstruction
    cases hTrace : r.trace with
    | nil => simp [hTrace] at hMember
    | cons first later =>
        simp only [hTrace, List.dropLast_cons_cons,
          List.mem_cons] at hMember
        rcases hMember with hHere | hLater
        · subst s
          rw [hAt] at hInstruction
          cases hInstruction
          exact hGoesOn
        · exact
            hRest.halts_last s (by simpa [hTrace] using hLater)
              j hInstruction
  · rw [hRest.halted_iff]
    cases hTrace : r.trace with
    | nil =>
        constructor
        · rintro ⟨s, j, hLast, -, -⟩
          simp at hLast
        · rintro ⟨s, j, hLast, hInstruction, hHalts⟩
          simp only [List.getLast?_singleton,
            Option.some.injEq] at hLast
          subst s
          rw [hAt] at hInstruction
          cases hInstruction
          exact absurd hHalts hGoesOn
    | cons first later => simp
  · intro hEnd
    simpa using hRest.stepBudget_length hEnd
  · intro hEnd
    simpa [hSum] using hRest.timeout_expired hEnd

/- A run that stops where it is. -/
theorem Follows.nil
    {program : Array Instruction}
    {bounds : Bounds}
    {left taken : Nat}
    {m final : Machine}
    {termination : Termination}
    (hState : final.state = m.state)
    (hWarnings :
      final.warnings =
        m.warnings ++
          closing program bounds taken m.state.pc termination)
    (hHalted : termination ≠ .halted)
    (hRange :
      termination = .outOfRange ↔
        program.size ≤ m.state.pc)
    (hBudget : termination = .stepBudget → left = 0)
    (hTime :
      termination = .timeout →
        bounds.expired taken = true) :
    Follows program bounds left taken m
      ⟨[], final, termination⟩ :=
  { length_le := Nat.zero_le left
    trace_eq := rfl
    final_state := hState
    final_warnings := by simpa [hState] using hWarnings
    pc_lt := by simp
    halts_last := by simp
    halted_iff := by simpa using hHalted
    outOfRange_iff := by simpa [hState] using hRange
    stepBudget_length := fun hEnd => (hBudget hEnd).symm
    timeout_expired := by simpa using hTime }

/- A run that halts with its only step. -/
theorem Follows.halt
    {program : Array Instruction}
    {bounds : Bounds}
    {left taken : Nat}
    {m : Machine}
    {i : Instruction}
    (hAt : program[m.state.pc]? = some i)
    (hHalts : i.Halts) :
    Follows program bounds (left + 1) taken m
      ⟨[m.state], m.step program.size i, .halted⟩ := by
  have hNext := Machine.next_of_instruction hAt
  have hInside : m.state.pc < program.size :=
    (Array.getElem?_eq_some_iff.mp hAt).1
  have hStays :
      (m.step program.size i).state.pc = m.state.pc := by
    rw [Machine.step_pc, Instruction.successor_eq,
      i.halts_iff.mp hHalts]
  exact
    { length_le := by simp
      trace_eq := by simp
      final_state := by simp [hNext]
      final_warnings := by simp [hNext, closing]
      pc_lt := by simpa using hInside
      halts_last := by simp
      halted_iff := by simp [hAt, hHalts]
      outOfRange_iff := by simp [hStays, hInside]
      stepBudget_length := by simp
      timeout_expired := by simp }

/- Every replay goes on by steps and says why it stops. -/
theorem continue_follows
    (program : Array Instruction)
    (bounds : Bounds)
    (left taken : Nat)
    (m : Machine) :
    Follows program bounds left taken m
      (Run.continue program bounds left taken m) := by
  fun_induction Run.continue program bounds left taken m with
  | case1 left taken m hOutside =>
      have hBeyond : program.size ≤ m.state.pc :=
        Array.getElem?_eq_none_iff.mp hOutside
      apply Follows.nil <;> simp [closing, hBeyond]
  | case2 taken m i hAt hShort =>
      have hInside : m.state.pc < program.size :=
        (Array.getElem?_eq_some_iff.mp hAt).1
      apply Follows.nil <;>
        simp [closing, Machine.warn, hShort, hInside]
  | case3 taken m i hAt hEnough =>
      have hInside : m.state.pc < program.size :=
        (Array.getElem?_eq_some_iff.mp hAt).1
      apply Follows.nil <;>
        simp [closing, hEnough, hInside]
  | case4 taken m i hAt left hExpired =>
      have hInside : m.state.pc < program.size :=
        (Array.getElem?_eq_some_iff.mp hAt).1
      apply Follows.nil <;>
        simp [closing, Machine.warn, hExpired, hInside]
  | case5 taken m i hAt left hInTime next hHalt =>
      exact
        Follows.halt hAt
          ((Instruction.ofInstruction_eq_halt_iff i).mp hHalt)
  | case6 taken m i hAt left hInTime next hGoesOn rest ih =>
      refine Follows.cons hAt ?_ ih
      rw [← Instruction.ofInstruction_eq_halt_iff]
      exact hGoesOn

/- A whole replay follows the initial machine. -/
theorem replay_follows
    (program : Array Instruction)
    (bounds : Bounds) :
    Follows program bounds bounds.budget 0
      Machine.initial (replay program bounds) :=
  continue_follows program bounds bounds.budget 0
    Machine.initial

end Run

------------------------------------------------------------
-- Bounded Iteration
------------------------------------------------------------

/- The machine after so many steps of a program. -/
def Machine.after
    (program : Array Instruction)
    (count : Nat) :
    Machine :=
  (Machine.next program)^[count] Machine.initial

theorem Machine.after_succ
    {program : Array Instruction}
    {count : Nat}
    {i : Instruction}
    (hAt :
      program[(Machine.after program count).state.pc]? =
        some i) :
    Machine.after program (count + 1) =
      (Machine.after program count).step program.size i := by
  unfold Machine.after
  rw [Function.iterate_succ_apply']
  exact Machine.next_of_instruction hAt

/- The trace of a replay lists the machines in order. -/
theorem Run.replay_trace
    (program : Array Instruction)
    (bounds : Bounds) :
    (replay program bounds).trace =
      (List.range (replay program bounds).trace.length).map
        fun k => (Machine.after program k).state := by
  rw [(Run.replay_follows program bounds).trace_eq,
    ← List.range_map_iterate, List.map_map]
  simp [Machine.after, Function.comp_def]

/-
  What a report says of a program that was replayed for at
  most `budget` steps: the states before the steps, the
  state after the last one, and the reason for the end.
-/
structure IsBoundedIteration
    (program : Array Instruction)
    (budget : Nat)
    (report : Report) : Prop where
  /- the replay begins with nothing, at the first place -/
  start_eq :
    (Machine.after program 0).state = ⟨0, [], [], [], []⟩
  /- each step executes the instruction at its place -/
  step_eq :
    ∀ k < report.trace.length, ∃ i,
      program[(Machine.after program k).state.pc]? = some i ∧
        Machine.after program (k + 1) =
          (Machine.after program k).step program.size i ∧
        (Machine.after program (k + 1)).state.pc =
          i.successor (Machine.after program k).state.pc
  trace_eq :
    report.trace =
      (List.range report.trace.length).map
        fun k => (Machine.after program k).state
  final_eq :
    report.final =
      (Machine.after program report.trace.length).state
  length_le : report.trace.length ≤ budget
  pc_lt : ∀ s ∈ report.trace, s.pc < program.size
  /- a halt can only be the last step -/
  halts_last :
    ∀ s ∈ report.trace.dropLast, ∀ i,
      program[s.pc]? = some i → ¬ i.Halts
  halted_iff :
    report.termination = .halted ↔
      ∃ s i, report.trace.getLast? = some s ∧
        program[s.pc]? = some i ∧ i.Halts
  outOfRange_iff :
    report.termination = .outOfRange ↔
      program.size ≤ report.final.pc
  /- without a halt and inside the program, the steps ran out -/
  stepBudget_of_else :
    report.termination ≠ .halted →
      report.final.pc < program.size →
        report.termination = .stepBudget ∧
          report.trace.length = budget
  budget_warning_iff :
    ∀ steps pc,
      Warning.budget steps pc ∈ report.warnings ↔
        report.termination = .stepBudget ∧
          budget < program.size ∧
          steps = budget ∧ pc = report.final.pc

/-
  A replay whose clock never runs out is the iteration of
  single steps, bounded by the steps that are allowed and by
  the length of the program.
-/
theorem executeTimed_isBoundedIteration
    (expired : Nat → Bool)
    (hNever : ∀ taken, expired taken = false)
    (program : Array Instruction)
    (settings : ReplaySettings) :
    IsBoundedIteration program
      (min settings.maxSteps program.size)
      (executeTimed expired program settings) := by
  let bounds :=
    Bounds.ofSettings settings expired program.size
  let run := replay program bounds
  have hRun := Run.replay_follows program bounds
  have hTrace := Run.replay_trace program bounds
  have hInTime : run.termination ≠ .timeout := by
    intro hTimeout
    have hExpired := hRun.timeout_expired hTimeout
    simp [bounds, Bounds.ofSettings, hNever] at hExpired
  refine
    { start_eq := rfl, step_eq := ?_, trace_eq := hTrace,
      final_eq := hRun.final_state,
      length_le := hRun.length_le,
      pc_lt := hRun.pc_lt, halts_last := hRun.halts_last,
      halted_iff := hRun.halted_iff,
      outOfRange_iff := hRun.outOfRange_iff,
      stepBudget_of_else := ?_, budget_warning_iff := ?_ }
  · intro k hk
    have hMember :
        (Machine.after program k).state ∈ run.trace := by
      rw [hTrace]
      exact
        List.mem_map.mpr ⟨k, List.mem_range.mpr hk, rfl⟩
    have hAt :=
      Array.getElem?_eq_getElem (hRun.pc_lt _ hMember)
    refine ⟨_, hAt, Machine.after_succ hAt, ?_⟩
    rw [Machine.after_succ hAt, Machine.step_pc]
  · intro hHalted hInside
    have hEnd : run.termination = .stepBudget := by
      cases hTermination : run.termination with
      | outOfRange =>
          have hBeyond :=
            hRun.outOfRange_iff.mp hTermination
          exact absurd hInside (Nat.not_lt.mpr hBeyond)
      | halted => exact absurd hTermination hHalted
      | stepBudget => rfl
      | timeout => exact absurd hTermination hInTime
    exact ⟨hEnd, hRun.stepBudget_length hEnd⟩
  · intro steps pc
    have hBefore :=
      Machine.budget_notMem_iterate_warnings program
        run.trace.length steps pc
    have hClosing :=
      Run.budget_mem_closing_iff program bounds
        (0 + run.trace.length) run.final.state.pc steps pc
        run.termination
    change Warning.budget steps pc ∈ run.final.warnings ↔ _
    rw [hRun.final_warnings, List.mem_append]
    exact (or_iff_right hBefore).trans hClosing

/- A program that jumps in place, cut off after one step. -/
def jumpingInPlace : Array Instruction :=
  #[.named "JMP" [.text "0"], .named "HALT" []]

/-
  The program counter stays where it is, the one step is taken,
  and the replay warns that it was cut off.
-/
theorem executeTimed_jumpingInPlace :
    let report :=
      executeTimed (fun _ => false) jumpingInPlace
        { maxSteps := 1 }
    (∀ taken, (fun _ => false : Nat → Bool) taken = false) ∧
      IsBoundedIteration jumpingInPlace
        (min 1 jumpingInPlace.size) report ∧
      report.trace.map (·.pc) = [0] ∧
      report.final.pc = 0 ∧
      report.termination = .stepBudget ∧
      report.warnings = [.budget 1 0] := by
  intro report
  have hIteration :
      IsBoundedIteration jumpingInPlace
        (min 1 jumpingInPlace.size) report :=
    executeTimed_isBoundedIteration (fun _ => false)
      (fun _ => rfl) jumpingInPlace { maxSteps := 1 }
  exact
    ⟨fun _ => rfl, hIteration, by decide, by decide, by decide,
      by decide⟩

end Replay

end Devirt

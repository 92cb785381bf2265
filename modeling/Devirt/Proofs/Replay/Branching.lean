import Devirt.Proofs.Replay.Recording

/-
  The path of a replay is the log of its branches.

  A branch writes its condition down whether it has a usable
  target or not.  With one the replay goes there.  Without one
  it warns and goes on behind the branch, and the path says
  all the same that the branch was taken.

  Main declarations:
    * `Instruction.branch?` and `Machine.branched?`
    * `Machine.WritesBranch` and `Machine.step_writesBranch`
    * `branchLog`, `Machine.after_path`
    * `TakesBranches` and `takesBranches_iff`
    * `executeTimed_recordsBranches`
    * `aimlessBranch_untaken`
-/

------------------------------------------------------------
-- Branches
------------------------------------------------------------

namespace Devirt

/-
  Whether an instruction branches, and if it does, whether it
  branches on zero or on everything else.
-/
def Instruction.branch?
    (i : Instruction) :
    Option Bool :=
  match Mnemonic.ofName? i.name with
  | some .jz => some true
  | some .jnz => some false
  | _ => none

theorem Instruction.ofInstruction_eq_branch_iff
    (i : Instruction)
    (onZero : Bool) :
    Action.ofInstruction i = .branch onZero ↔
      i.branch? = some onZero := by
  unfold Action.ofInstruction Instruction.branch?
  cases hName : Mnemonic.ofName? i.name with
  | none =>
      cases hCategory : i.category <;>
        simp [Action.ofCategory, hCategory]
  | some mnemonic =>
      cases mnemonic <;> simp [Action.ofMnemonic]

namespace Replay

namespace Machine

/- What an instruction writes down if it branches. -/
def branched?
    (i : Instruction)
    (m : Machine) :
    Option Constraint :=
  i.branch?.map fun onZero => m.branching onZero

/- What an action writes down. -/
def branchedBy?
    (m : Machine) :
    Action → Option Constraint
  | .branch onZero => some (m.branching onZero)
  | _ => none

/- Warnings do not change what is written down. -/
theorem branching_recognise
    (i : Instruction)
    (m : Machine)
    (onZero : Bool) :
    (m.recognise i).branching onZero = m.branching onZero := by
  have hCreated :=
    createdBy?_recognise i m (.branch onZero)
  exact Option.some.inj hCreated

theorem branchedBy?_recognise
    (i : Instruction)
    (m : Machine) :
    (m.recognise i).branchedBy? (Action.ofInstruction i) =
      m.branched? i := by
  unfold branched?
  cases hBranch : i.branch? with
  | some onZero =>
      have hAction :=
        (i.ofInstruction_eq_branch_iff onZero).mpr hBranch
      rw [hAction, branchedBy?, branching_recognise]
      rfl
  | none =>
      have hOther (onZero : Bool) :
          Action.ofInstruction i ≠ .branch onZero := by
        intro hAction
        rw [(i.ofInstruction_eq_branch_iff onZero).mp hAction]
          at hBranch
        cases hBranch
      cases hAction : Action.ofInstruction i with
      | branch onZero => exact absurd hAction (hOther onZero)
      | _ => rfl

@[simp] theorem pop_path
    (m : Machine) :
    m.pop.2.state.path = m.state.path := by
  unfold pop
  split <;> rfl

/- Only branches write on the path, and they always do. -/
theorem perform_path
    (length : Nat)
    (i : Instruction)
    (m : Machine)
    (action : Action) :
    (m.perform length i action).state.path =
      m.state.path ++ (m.branchedBy? action).toList := by
  cases action with
  | constant =>
      cases hOperands : i.operands <;>
        simp [perform, hOperands, push, advance, goto,
          branchedBy?]
  | branch onZero =>
      simp [perform, goto, branchedBy?, branching]
  | _ => simp [perform, push, advance, goto, branchedBy?]

theorem step_path
    (length : Nat)
    (i : Instruction)
    (m : Machine) :
    (m.step length i).state.path =
      m.state.path ++ (m.branched? i).toList := by
  unfold step
  rw [perform_path, branchedBy?_recognise, recognise_state]

------------------------------------------------------------
-- Warnings
------------------------------------------------------------

theorem pop_warnings
    (m : Machine) :
    m.warnings <+: m.pop.2.warnings := by
  unfold pop
  split
  · exact List.prefix_rfl
  · exact List.prefix_append _ _

theorem target_warnings
    (m : Machine)
    (length : Nat)
    (i : Instruction) :
    m.warnings <+: (m.target length i).2.warnings := by
  unfold target
  split
  · exact List.prefix_append _ _
  · split
    · exact List.prefix_append _ _
    · exact List.prefix_rfl

theorem recognise_warnings
    (m : Machine)
    (i : Instruction) :
    m.warnings <+: (m.recognise i).warnings := by
  unfold recognise
  split
  · exact List.prefix_rfl
  · exact List.prefix_append _ _

theorem perform_warnings
    (length : Nat)
    (i : Instruction)
    (m : Machine)
    (action : Action) :
    m.warnings <+: (m.perform length i action).warnings := by
  have hPop := m.pop_warnings
  cases action with
  | constant =>
      unfold perform
      cases i.operands with
      | nil => exact List.prefix_rfl
      | cons l rest => exact List.prefix_rfl
  | discard => exact hPop
  | duplicate => exact hPop
  | negate => exact hPop
  | store => exact hPop
  | jump => exact m.target_warnings length i
  | branch onZero =>
      exact hPop.trans (m.pop.2.target_warnings length i)
  | combine operator => exact hPop.trans m.pop.2.pop_warnings
  | call => exact List.prefix_rfl
  | load => exact List.prefix_rfl
  | halt => exact List.prefix_rfl
  | skip => exact List.prefix_rfl

/- A step takes no warning back. -/
theorem step_warnings
    (length : Nat)
    (i : Instruction)
    (m : Machine) :
    m.warnings <+: (m.step length i).warnings :=
  (m.recognise_warnings i).trans
    ((m.recognise i).perform_warnings length i _)

theorem step_noTarget
    {i : Instruction}
    {onZero : Bool}
    (length : Nat)
    (m : Machine)
    (hBranch : i.branch? = some onZero)
    (hAimless : i.index? = none) :
    Warning.noTarget i.name m.state.pc ∈
      (m.step length i).warnings := by
  have hAction :=
    (i.ofInstruction_eq_branch_iff onZero).mpr hBranch
  unfold step
  rw [hAction]
  simp [perform, target, hAimless, warn, goto]

------------------------------------------------------------
-- One Step
------------------------------------------------------------

/-
  What a step does with its instruction as a branch: it writes
  it down in any case, and takes it if it can.
-/
structure WritesBranch
    (i : Instruction)
    (m later : Machine) : Prop where
  path_eq :
    later.state.path =
      m.state.path ++ (m.branched? i).toList
  taken :
    i.branch?.isSome = true →
      ∀ target ∈ i.index?, later.state.pc = target
  passed :
    i.branch?.isSome = true →
      i.index? = none →
        later.state.pc = m.state.pc + 1 ∧
          Warning.noTarget i.name m.state.pc ∈ later.warnings

theorem step_writesBranch
    (length : Nat)
    (i : Instruction)
    (m : Machine) :
    m.WritesBranch i (m.step length i) := by
  have hSuccessor :
      i.branch?.isSome = true →
        i.successor m.state.pc =
          i.index?.getD (m.state.pc + 1) := by
    rw [Instruction.successor_eq]
    unfold Instruction.branch?
    split <;> simp [*]
  refine ⟨m.step_path length i, ?_, ?_⟩
  · intro hBranch target hTarget
    rw [step_pc, hSuccessor hBranch, Option.mem_def.mp hTarget,
      Option.getD_some]
  · intro hBranch hAimless
    rcases Option.isSome_iff_exists.mp hBranch with
      ⟨onZero, hOnZero⟩
    refine ⟨?_, m.step_noTarget length hOnZero hAimless⟩
    rw [step_pc, hSuccessor hBranch, hAimless, Option.getD_none]

end Machine

------------------------------------------------------------
-- Whole Runs
------------------------------------------------------------

/- What the instruction at the program counter writes down. -/
def Machine.writes?
    (program : Array Instruction)
    (m : Machine) :
    Option Constraint :=
  program[m.state.pc]?.bind m.branched?

/- The branches of the first steps of a program, in order. -/
def branchLog
    (program : Array Instruction)
    (steps : Nat) :
    List Constraint :=
  (List.range steps).filterMap fun k =>
    (Machine.after program k).writes? program

theorem Machine.after_next
    (program : Array Instruction)
    (steps : Nat) :
    Machine.after program (steps + 1) =
      (Machine.after program steps).next program :=
  Function.iterate_succ_apply' _ _ _

theorem Machine.next_path
    (program : Array Instruction)
    (m : Machine) :
    (m.next program).state.path =
      m.state.path ++ (m.writes? program).toList := by
  unfold writes?
  cases hAt : program[m.state.pc]? with
  | none => simp [next, hAt]
  | some i =>
      rw [next_of_instruction hAt, Option.bind_some,
        step_path]

theorem Machine.after_path
    (program : Array Instruction)
    (steps : Nat) :
    (Machine.after program steps).state.path =
      branchLog program steps := by
  induction steps with
  | zero => rfl
  | succ steps ih =>
      have hLog :
          branchLog program (steps + 1) =
            branchLog program steps ++
              ((Machine.after program steps).writes?
                program).toList := by
        unfold branchLog
        rw [List.range_succ, List.filterMap_append]
        cases hWrites :
            (Machine.after program steps).writes? program <;>
          simp [hWrites]
      rw [Machine.after_next, Machine.next_path, ih, hLog]

theorem Machine.next_warnings
    (program : Array Instruction)
    (m : Machine) :
    m.warnings <+: (m.next program).warnings := by
  unfold next
  split
  · exact m.step_warnings program.size _
  · exact List.prefix_rfl

theorem Machine.after_warnings
    (program : Array Instruction)
    {k steps : Nat}
    (hOrder : k ≤ steps) :
    (Machine.after program k).warnings <+:
      (Machine.after program steps).warnings := by
  induction steps, hOrder using Nat.le_induction with
  | base => exact List.prefix_rfl
  | succ steps hOrder ih =>
      rw [Machine.after_next]
      exact ih.trans (Machine.next_warnings program _)

theorem Run.replay_final
    (program : Array Instruction)
    (bounds : Bounds) :
    (replay program bounds).final.state =
      (Machine.after program
        (replay program bounds).trace.length).state :=
  (Run.replay_follows program bounds).final_state

/- Every step of a replay executes an instruction. -/
theorem Run.exists_instruction
    (program : Array Instruction)
    (bounds : Bounds)
    {k : Nat}
    (hk : k < (replay program bounds).trace.length) :
    ∃ i,
      program[(Machine.after program k).state.pc]? = some i := by
  have hMember :
      (Machine.after program k).state ∈
        (replay program bounds).trace := by
    rw [Run.replay_trace]
    exact List.mem_map.mpr ⟨k, List.mem_range.mpr hk, rfl⟩
  have hInside :=
    (Run.replay_follows program bounds).pc_lt _ hMember
  exact ⟨_, Array.getElem?_eq_getElem hInside⟩

------------------------------------------------------------
-- Branches That Are Taken
------------------------------------------------------------

/-
  The path grows just by those branches whose target the
  replay goes to.
-/
def TakesBranches
    (program : Array Instruction)
    (steps : Nat) :
    Prop :=
  ∀ k < steps, ∀ i,
    program[(Machine.after program k).state.pc]? = some i →
      (Machine.after program (k + 1)).state.path =
        (Machine.after program k).state.path ++
          (if i.index? =
              some
                (Machine.after program (k + 1)).state.pc then
            (Machine.after program k).branched? i
          else
            none).toList

/- It does so if no branch is executed without a target. -/
theorem takesBranches_iff
    (program : Array Instruction)
    (steps : Nat) :
    TakesBranches program steps ↔
      ∀ k < steps, ∀ i,
        program[(Machine.after program k).state.pc]? = some i →
          i.branch?.isSome = true → i.index?.isSome = true := by
  unfold TakesBranches
  refine forall₄_congr fun k hk i hAt => ?_
  have hWrites :=
    (Machine.after program k).step_writesBranch program.size i
  rw [Machine.after_succ hAt]
  rw [hWrites.path_eq, List.append_cancel_left_eq]
  cases hBranch : i.branch? with
  | none => simp [Machine.branched?, hBranch]
  | some onZero =>
      have hIsBranch : i.branch?.isSome = true := by
        simp [hBranch]
      cases hIndex : i.index? with
      | none => simp [Machine.branched?, hBranch]
      | some target =>
          have hTaken := hWrites.taken hIsBranch target hIndex
          simp [hTaken]

/-
  What a report says of the branches of a program that was
  replayed: each of them is on the path, in the order of the
  steps, and only those without a target were not taken.
-/
structure RecordsBranches
    (program : Array Instruction)
    (report : Report) : Prop where
  /- the executed instructions are those at these places -/
  trace_eq :
    report.trace =
      (List.range report.trace.length).map
        fun k => (Machine.after program k).state
  path_eq :
    report.final.path = branchLog program report.trace.length
  step_writes :
    ∀ k < report.trace.length, ∃ i,
      program[(Machine.after program k).state.pc]? = some i ∧
        (Machine.after program k).WritesBranch i
          (Machine.after program (k + 1))
  /- the report shows the warnings of every step -/
  warnings_shown :
    ∀ k < report.trace.length,
      (Machine.after program (k + 1)).warnings <+:
        report.warnings
  takes_iff :
    TakesBranches program report.trace.length ↔
      ∀ k < report.trace.length, ∀ i,
        program[(Machine.after program k).state.pc]? = some i →
          i.branch?.isSome = true → i.index?.isSome = true

/-
  Whatever the clock, the path of a replay is the log of its
  branches, those without a target included.
-/
theorem executeTimed_recordsBranches
    (expired : Nat → Bool)
    (program : Array Instruction)
    (settings : ReplaySettings) :
    RecordsBranches program
      (executeTimed expired program settings) := by
  let bounds :=
    Bounds.ofSettings settings expired program.size
  let run := replay program bounds
  have hRun := Run.replay_follows program bounds
  refine
    { trace_eq := Run.replay_trace program bounds
      path_eq := ?_, step_writes := ?_, warnings_shown := ?_
      takes_iff := takesBranches_iff program _ }
  · change run.final.state.path = _
    rw [Run.replay_final]
    exact Machine.after_path program run.trace.length
  · intro k hk
    rcases Run.exists_instruction program bounds hk with
      ⟨i, hAt⟩
    refine ⟨i, hAt, ?_⟩
    rw [Machine.after_succ hAt]
    exact Machine.step_writesBranch program.size i _
  · intro k hk
    change _ <+: run.final.warnings
    rw [hRun.final_warnings]
    exact
      (Machine.after_warnings program hk).trans
        (List.prefix_append _ _)

/- A branch on a flag that does not say where to go. -/
def aimlessBranch : Array Instruction :=
  #[.named "LOAD" [.text "flag"], .named "JZ" [],
    .named "HALT" []]

/-
  The path says that the branch was taken, though it has no
  target and the replay goes on right behind it.
-/
theorem aimlessBranch_untaken :
    let report :=
      executeTimed (fun _ => false) aimlessBranch {}
    ¬ TakesBranches aimlessBranch report.trace.length ∧
      report.trace.map (·.pc) = [0, 1, 2] ∧
      report.final.path =
        [⟨.equality, "flag == 0", "branch taken at pc 1"⟩] ∧
      report.warnings = [.noTarget "JZ" 1] := by
  refine ⟨?_, by decide +kernel, by decide +kernel,
    by decide +kernel⟩
  rw [takesBranches_iff]
  intro hUsable
  have hPlace :
      (Machine.after aimlessBranch 1).state.pc = 1 := by
    decide +kernel
  have hTarget :=
    hUsable 1 (by decide +kernel) (.named "JZ" [])
      (by rw [hPlace]; rfl) (by decide +kernel)
  cases hTarget

end Replay

end Devirt

import Devirt.Proofs.Replay.Branching
import Mathlib.Algebra.Ring.Int.Defs
import Mathlib.Data.List.Nodup
import Mathlib.Data.List.Range

/-
  The accounts of a replay.

  Each instruction moves the height of the stack by a fixed
  number, except that a pop from an empty stack takes nothing
  off: it makes a value up and warns.  So the height is what
  the instructions sum up to and one for each of these
  warnings, and the values made up are numbered like them.
  Of the rest of a state, a step keeps the registers and the
  path so far, and all cells but the one that it stores to.

  Main declarations:
    * `Instruction.balance`
    * `Machine.invented`, `placeholders`
    * `Machine.Reckons` and `Machine.step_reckons`
    * `State.Precedes` and `Machine.step_precedes`
    * `KeepsAccounts`, `executeTimed_keepsAccounts`
-/

------------------------------------------------------------
-- Balances
------------------------------------------------------------

namespace Devirt

/- What a known instruction adds to the height of the stack. -/
def Mnemonic.balance : Mnemonic → Int
  | push => 1
  | loadConst => 1
  | load => 1
  | dup => 1
  | pop => -1
  | store => -1
  | jz => -1
  | jnz => -1
  | add => -1
  | sub => -1
  | mul => -1
  | div => -1
  | mod => -1
  | and => -1
  | or => -1
  | xor => -1
  | eq => -1
  | ne => -1
  | lt => -1
  | le => -1
  | gt => -1
  | ge => -1
  | not => 0
  | jmp => 0
  | call => 0
  | ret => 0
  | nop => 0
  | halt => 0

/- What an instruction known by its category adds to it. -/
def Category.balance : Category → Int
  | load => 1
  | store => -1
  | arithmetic => -1
  | control => 0
  | call => 0
  | unknown => 0

namespace Instruction

/- What an instruction adds to the height of the stack. -/
def balance (i : Instruction) : Int :=
  match Mnemonic.ofName? i.name with
  | some mnemonic => mnemonic.balance
  | none => i.category.balance

/- The instruction writes to the cell that it refers to. -/
def Stores (i : Instruction) : Prop :=
  Mnemonic.ofName? i.name = some .store ∨
    (Mnemonic.ofName? i.name = none ∧ i.category = .store)

end Instruction

/- What an action adds to the height of the stack. -/
def Action.balance : Action → Int
  | constant => 1
  | load => 1
  | duplicate => 1
  | discard => -1
  | store => -1
  | branch _ => -1
  | combine _ => -1
  | negate => 0
  | jump => 0
  | call => 0
  | skip => 0
  | halt => 0

namespace Instruction

theorem balance_eq
    (i : Instruction) :
    i.balance = (Action.ofInstruction i).balance := by
  unfold balance Action.ofInstruction
  cases hName : Mnemonic.ofName? i.name with
  | none =>
      cases hCategory : i.category <;>
        simp [Action.ofCategory, hCategory, Category.balance,
          Action.balance]
  | some mnemonic => cases mnemonic <;> rfl

theorem ofInstruction_eq_store_iff
    (i : Instruction) :
    Action.ofInstruction i = .store ↔ i.Stores := by
  unfold Action.ofInstruction Stores
  cases hName : Mnemonic.ofName? i.name with
  | none =>
      cases hCategory : i.category <;>
        simp [Action.ofCategory, hCategory]
  | some mnemonic =>
      cases mnemonic <;> simp [Action.ofMnemonic]

end Instruction

end Devirt

------------------------------------------------------------
-- Invented Values
------------------------------------------------------------

namespace Devirt

namespace Replay

/- The place at which a warning found the stack empty. -/
def Warning.underflowPlace? : Warning → Option Nat
  | underflow pc => some pc
  | _ => none

/- The places of all underflows that were warned of. -/
def underflowPlaces (warnings : List Warning) : List Nat :=
  warnings.filterMap Warning.underflowPlace?

@[simp] theorem underflowPlaces_append
    (warnings later : List Warning) :
    underflowPlaces (warnings ++ later) =
      underflowPlaces warnings ++ underflowPlaces later :=
  List.filterMap_append

/- Nothing underflows when a run ends. -/
theorem underflowPlaces_closing
    (program : Array Instruction)
    (bounds : Bounds)
    (steps pc : Nat)
    (termination : Termination) :
    underflowPlaces
      (Run.closing program bounds steps pc termination) = [] := by
  cases termination with
  | stepBudget =>
      simp only [Run.closing]
      split_ifs <;> rfl
  | _ => rfl

/-
  The values for underflows at some places, numbered in their
  order.
-/
def placeholders
    (first : Nat)
    (places : List Nat) :
    List Value :=
  (places.zipIdx first).map fun place =>
    Value.placeholder
      (TreeMachine.freshName place.1 place.2)

theorem placeholders_append
    (first : Nat)
    (places later : List Nat) :
    placeholders first (places ++ later) =
      placeholders first places ++
        placeholders (first + places.length) later := by
  unfold placeholders
  rw [List.zipIdx_append, List.map_append]

@[simp] theorem length_placeholders
    (first : Nat)
    (places : List Nat) :
    (placeholders first places).length = places.length := by
  simp [placeholders]

/- The number of a value keeps its name from all others. -/
theorem placeholders_nodup
    (places : List Nat) :
    ((placeholders 0 places).map (·.name)).Nodup := by
  have hNumbers :
      ((places.zipIdx).map Prod.snd).Nodup := by
    rw [List.zipIdx_map_snd]
    exact List.nodup_range'
  unfold placeholders
  rw [List.map_map]
  apply List.Nodup.map_on _ hNumbers.of_map
  rintro ⟨pc, n⟩ hMember ⟨other, k⟩ hOther hName
  have hSame : n = k :=
    TreeMachine.freshName_count_injective hName
  subst hSame
  rw [List.mk_mem_zipIdx_iff_getElem?] at hMember hOther
  rw [hMember] at hOther
  rw [Option.some.inj hOther]

namespace Machine

/- The value that a pop makes up, if the stack is empty. -/
def invented (m : Machine) : List Value :=
  match m.state.stack with
  | [] => [m.pop.1]
  | _ :: _ => []

/- The values that the pops of an action make up. -/
def inventedBy (m : Machine) : Action → List Value
  | .discard => m.invented
  | .duplicate => m.invented
  | .negate => m.invented
  | .branch _ => m.invented
  | .store => m.invented
  | .combine _ => m.invented ++ m.pop.2.invented
  | _ => []

theorem invented_congr
    {m n : Machine}
    (hState : m.state = n.state)
    (hUnderflows : m.underflows = n.underflows) :
    m.invented = n.invented := by
  unfold invented
  rw [hState, (pop_congr hState hUnderflows).1]

/- Warnings do not change what is made up. -/
theorem inventedBy_recognise
    (i : Instruction)
    (m : Machine)
    (action : Action) :
    (m.recognise i).inventedBy action = m.inventedBy action := by
  have hState := recognise_state m i
  have hUnderflows := recognise_underflows m i
  have hFirst := invented_congr hState hUnderflows
  have hRest := pop_congr hState hUnderflows
  have hSecond := invented_congr hRest.2.1 hRest.2.2
  cases action <;> simp [inventedBy, hFirst, hSecond]

------------------------------------------------------------
-- Reckoning
------------------------------------------------------------

/-
  From one machine to a later one the stack has grown by a
  balance and by the values that were made up meanwhile; there
  was a warning for each of these, and it is named after it.
-/
structure Reckons
    (m later : Machine)
    (balance : Int)
    (made : List Value) : Prop where
  height_eq :
    (later.state.stack.length : Int) =
      m.state.stack.length + balance + made.length
  underflows_eq :
    later.underflows = m.underflows + made.length
  places_eq :
    ∃ places,
      underflowPlaces later.warnings =
          underflowPlaces m.warnings ++ places ∧
        made = placeholders m.underflows places

namespace Reckons

variable {m middle later : Machine}
variable {balance rest : Int}
variable {made more : List Value}

theorem refl (m : Machine) : m.Reckons m 0 [] :=
  ⟨by simp, rfl, [], by simp, rfl⟩

theorem trans
    (hFirst : m.Reckons middle balance made)
    (hRest : middle.Reckons later rest more) :
    m.Reckons later (balance + rest) (made ++ more) := by
  rcases hFirst.places_eq with ⟨places, hPlaces, hMade⟩
  rcases hRest.places_eq with ⟨others, hOthers, hMore⟩
  have hHeight := hFirst.height_eq
  have hLater := hRest.height_eq
  have hUnderflows := hFirst.underflows_eq
  refine ⟨?_, ?_, places ++ others, ?_, ?_⟩
  · rw [List.length_append]
    omega
  · rw [hRest.underflows_eq, hUnderflows, List.length_append,
      Nat.add_assoc]
  · rw [hOthers, hPlaces, List.append_assoc]
  · rw [placeholders_append, ← hMade, hMore, hUnderflows,
      hMade, length_placeholders]

/- Neither the place nor the path counts. -/
theorem congr
    {other : Machine}
    (hReckons : m.Reckons later balance made)
    (hStack : other.state.stack = later.state.stack)
    (hUnderflows : other.underflows = later.underflows)
    (hPlaces :
      underflowPlaces other.warnings =
        underflowPlaces later.warnings) :
    m.Reckons other balance made := by
  refine ⟨?_, ?_, ?_⟩
  · rw [hStack]
    exact hReckons.height_eq
  · rw [hUnderflows]
    exact hReckons.underflows_eq
  · rw [hPlaces]
    exact hReckons.places_eq

theorem push
    (hReckons : m.Reckons later balance made)
    (v : Value) :
    m.Reckons (later.push v) (balance + 1) made := by
  have hHeight := hReckons.height_eq
  refine
    ⟨?_, hReckons.underflows_eq, hReckons.places_eq⟩
  simp only [Machine.push, List.length_cons]
  omega

theorem goto
    (hReckons : m.Reckons later balance made)
    (pc : Nat) :
    m.Reckons (later.goto pc) balance made :=
  hReckons.congr rfl rfl rfl

theorem target
    (hReckons : m.Reckons later balance made)
    (length : Nat)
    (i : Instruction) :
    m.Reckons (later.target length i).2 balance made := by
  refine hReckons.congr (by simp) ?_ ?_
  · unfold Machine.target
    split
    · rfl
    · split <;> rfl
  · unfold Machine.target
    split
    · simp [warn, underflowPlaces, Warning.underflowPlace?]
    · split <;>
        simp [warn, underflowPlaces, Warning.underflowPlace?]

theorem recognise
    (hReckons : m.Reckons later balance made)
    (i : Instruction) :
    m.Reckons (later.recognise i) balance made := by
  refine hReckons.congr (by simp) (by simp) ?_
  unfold Machine.recognise
  split
  · rfl
  · simp [underflowPlaces, Warning.underflowPlace?]

end Reckons

/- A pop takes one off, or makes up what it cannot take. -/
theorem pop_reckons
    (m : Machine) :
    m.Reckons m.pop.2 (-1) m.invented := by
  unfold invented
  cases hStack : m.state.stack with
  | nil =>
      have hPop :
          m.pop =
            (Value.placeholder
                (TreeMachine.freshName m.state.pc m.underflows),
              { m with
                warnings := m.warnings ++ [.underflow m.state.pc]
                underflows := m.underflows + 1 }) := by
        simp [pop, hStack, TreeMachine.freshName]
      rw [hPop]
      refine ⟨?_, rfl, [m.state.pc], ?_, rfl⟩
      · simp [hStack]
      · simp [underflowPlaces, Warning.underflowPlace?]
  | cons v rest =>
      have hPop :
          m.pop =
            (v,
              { m with
                state := { m.state with stack := rest } }) := by
        simp [pop, hStack]
      rw [hPop]
      refine ⟨?_, rfl, [], by simp, rfl⟩
      simp only [hStack, List.length_cons, List.length_nil]
      omega

theorem perform_reckons
    (length : Nat)
    (i : Instruction)
    (m : Machine)
    (action : Action) :
    m.Reckons (m.perform length i action) action.balance
      (m.inventedBy action) := by
  have hSame := Reckons.refl m
  have hPop := m.pop_reckons
  cases action with
  | constant =>
      unfold perform
      cases i.operands with
      | nil => exact (hSame.push _).goto _
      | cons l rest => exact (hSame.push _).goto _
  | discard => exact hPop.goto _
  | duplicate => exact ((hPop.push _).push _).goto _
  | negate => exact (hPop.push _).goto _
  | jump => exact (hSame.target length i).goto _
  | branch onZero =>
      exact (hPop.target length i).congr rfl rfl rfl
  | call => exact hSame.goto _
  | load => exact (hSame.push _).goto _
  | store => exact hPop.congr rfl rfl rfl
  | halt => exact hSame
  | skip => exact hSame.goto _
  | combine operator =>
      -- the right operand may be made up, then the left one
      have hOperands := hPop.trans m.pop.2.pop_reckons
      exact (hOperands.push _).goto _

/- A step moves the stack as its instruction does. -/
theorem step_reckons
    (length : Nat)
    (i : Instruction)
    (m : Machine) :
    m.Reckons (m.step length i) i.balance
      (m.inventedBy (Action.ofInstruction i)) := by
  have hKnown := (Reckons.refl m).recognise i
  have hStep :=
    hKnown.trans
      ((m.recognise i).perform_reckons length i
        (Action.ofInstruction i))
  rw [Int.zero_add, List.nil_append, inventedBy_recognise,
    ← Instruction.balance_eq] at hStep
  unfold step
  exact hStep

end Machine

------------------------------------------------------------
-- What a Step Keeps
------------------------------------------------------------

/-
  What the state after an instruction has kept of the one
  before it.
-/
structure State.Precedes
    (i : Instruction)
    (s later : State) : Prop where
  registers_eq : later.registers = s.registers
  path_prefix : s.path <+: later.path
  cell_kept :
    ∀ name,
      (Memory.get? name s.memory).isSome = true →
        (Memory.get? name later.memory).isSome = true
  cell_changed :
    ∀ name,
      Memory.get? name later.memory ≠
          Memory.get? name s.memory →
        i.Stores ∧ name = i.subject

namespace Machine

@[simp] theorem pop_registers
    (m : Machine) :
    m.pop.2.state.registers = m.state.registers := by
  unfold pop
  split <;> rfl

@[simp] theorem pop_memory
    (m : Machine) :
    m.pop.2.state.memory = m.state.memory := by
  unfold pop
  split <;> rfl

theorem perform_registers
    (length : Nat)
    (i : Instruction)
    (m : Machine)
    (action : Action) :
    (m.perform length i action).state.registers =
      m.state.registers := by
  cases action with
  | constant =>
      cases hOperands : i.operands <;>
        simp [perform, hOperands, push, advance, goto]
  | _ => simp [perform, push, advance, goto]

/- A store sets its cell, and nothing else sets one. -/
theorem perform_memory
    (length : Nat)
    (i : Instruction)
    (m : Machine)
    (action : Action) :
    (m.perform length i action).state.memory =
        m.state.memory ∨
      action = .store ∧
        ∃ v,
          (m.perform length i action).state.memory =
            Memory.set i.subject v m.state.memory := by
  cases action with
  | constant =>
      cases hOperands : i.operands <;>
        simp [perform, hOperands, push, advance, goto]
  | store =>
      right
      refine ⟨rfl, ?_⟩
      simp only [perform, advance, goto, pop_memory]
      exact ⟨_, rfl⟩
  | _ => simp [perform, push, advance, goto]

theorem step_registers
    (length : Nat)
    (i : Instruction)
    (m : Machine) :
    (m.step length i).state.registers = m.state.registers := by
  unfold step
  rw [perform_registers, recognise_state]

theorem step_memory
    (length : Nat)
    (i : Instruction)
    (m : Machine) :
    (m.step length i).state.memory = m.state.memory ∨
      i.Stores ∧
        ∃ v,
          (m.step length i).state.memory =
            Memory.set i.subject v m.state.memory := by
  have hPerform :=
    (m.recognise i).perform_memory length i
      (Action.ofInstruction i)
  rw [recognise_state, i.ofInstruction_eq_store_iff]
    at hPerform
  unfold step
  exact hPerform

theorem step_precedes
    (length : Nat)
    (i : Instruction)
    (m : Machine) :
    State.Precedes i m.state (m.step length i).state := by
  have hPath :
      m.state.path <+: (m.step length i).state.path := by
    rw [step_path]
    exact List.prefix_append _ _
  rcases m.step_memory length i with hSame | ⟨hStores, v, hSet⟩
  · refine ⟨m.step_registers length i, hPath, ?_, ?_⟩
    · intro name hCell
      rwa [hSame]
    · intro name hChanged
      exact absurd (by rw [hSame]) hChanged
  · refine ⟨m.step_registers length i, hPath, ?_, ?_⟩
    · intro name hCell
      rw [hSet, Memory.get?_set]
      by_cases hName : name = i.subject
      · rw [if_pos hName]
        rfl
      · rwa [if_neg hName]
    · intro name hChanged
      rw [hSet, Memory.get?_set] at hChanged
      by_cases hName : name = i.subject
      · exact ⟨hStores, hName⟩
      · simp [hName] at hChanged

end Machine

------------------------------------------------------------
-- Whole Runs
------------------------------------------------------------

namespace Machine

/- The values that the next step makes up. -/
def invents
    (program : Array Instruction)
    (m : Machine) :
    List Value :=
  match program[m.state.pc]? with
  | some i => m.inventedBy (Action.ofInstruction i)
  | none => []

end Machine

/- What the next step adds to the height of the stack. -/
def State.balance
    (program : Array Instruction)
    (s : State) :
    Int :=
  match program[s.pc]? with
  | some i => i.balance
  | none => 0

theorem Machine.next_reckons
    (program : Array Instruction)
    (m : Machine) :
    m.Reckons (m.next program) (m.state.balance program)
      (m.invents program) := by
  unfold next State.balance invents
  cases program[m.state.pc]? with
  | none => exact Reckons.refl m
  | some i => exact m.step_reckons program.size i

/- The values made up in the first steps, in order. -/
def inventionLog
    (program : Array Instruction)
    (steps : Nat) :
    List Value :=
  (List.range steps).flatMap fun k =>
    (Machine.after program k).invents program

/- A replay reckons up all of its steps. -/
theorem Machine.after_reckons
    (program : Array Instruction)
    (steps : Nat) :
    Machine.initial.Reckons (Machine.after program steps)
      ((List.range steps).map fun k =>
        (Machine.after program k).state.balance program).sum
      (inventionLog program steps) := by
  induction steps with
  | zero => exact Reckons.refl _
  | succ steps ih =>
      have hBoth :=
        ih.trans
          ((Machine.after program steps).next_reckons program)
      unfold inventionLog at hBoth ⊢
      rw [Machine.after_next, List.range_succ, List.map_append,
        List.sum_append, List.flatMap_append]
      simpa using hBoth

theorem Machine.after_registers
    (program : Array Instruction)
    (steps : Nat) :
    (Machine.after program steps).state.registers = [] := by
  induction steps with
  | zero => rfl
  | succ steps ih =>
      rw [Machine.after_next]
      unfold next
      split
      · rw [step_registers, ih]
      · exact ih

/- The states of a replay, the last one included. -/
theorem Run.replay_states
    (program : Array Instruction)
    (bounds : Bounds) :
    (replay program bounds).trace ++
        [(replay program bounds).final.state] =
      (List.range
        ((replay program bounds).trace.length + 1)).map
        fun k => (Machine.after program k).state := by
  rw [List.range_succ, List.map_append, ← Run.replay_trace,
    Run.replay_final]
  rfl

------------------------------------------------------------
-- Accounts
------------------------------------------------------------

/- The instructions at the places of some states. -/
def executed
    (program : Array Instruction)
    (trace : List State) :
    List Instruction :=
  trace.filterMap fun s => program[s.pc]?

theorem sum_balance_executed
    (program : Array Instruction)
    (trace : List State) :
    ((executed program trace).map Instruction.balance).sum =
      (trace.map (State.balance program)).sum := by
  induction trace with
  | nil => rfl
  | cons s trace ih =>
      unfold executed at ih ⊢
      cases hAt : program[s.pc]? with
      | none => simp [hAt, State.balance, ih]
      | some i => simp [hAt, State.balance, ih]

/-
  What a report says of a program that was replayed, as far as
  it can be counted.
-/
structure KeepsAccounts
    (program : Array Instruction)
    (report : Report) : Prop where
  /- the executed instructions are those at these places -/
  trace_eq :
    report.trace =
      (List.range report.trace.length).map
        fun k => (Machine.after program k).state
  executed_length :
    (executed program report.trace).length =
      report.trace.length
  height_eq :
    (report.final.stack.length : Int) =
      ((executed program report.trace).map
          Instruction.balance).sum +
        (underflowPlaces report.warnings).length
  /- what was made up has the numbers of the warnings -/
  invented_eq :
    inventionLog program report.trace.length =
      placeholders 0 (underflowPlaces report.warnings)
  names_nodup :
    ((inventionLog program report.trace.length).map
      (·.name)).Nodup
  registers_nil :
    ∀ s ∈ report.trace ++ [report.final], s.registers = []
  states_precede :
    List.IsChain
      (fun s later =>
        ∃ i, program[s.pc]? = some i ∧
          State.Precedes i s later)
      (report.trace ++ [report.final])

/- Whatever the clock, a replay keeps its accounts. -/
theorem executeTimed_keepsAccounts
    (expired : Nat → Bool)
    (program : Array Instruction)
    (settings : ReplaySettings) :
    KeepsAccounts program
      (executeTimed expired program settings) := by
  let bounds :=
    Bounds.ofSettings settings expired program.size
  let run := replay program bounds
  have hRun := Run.replay_follows program bounds
  have hTrace := Run.replay_trace program bounds
  have hStates := Run.replay_states program bounds
  have hReckons :=
    Machine.after_reckons program run.trace.length
  have hPlaces :
      underflowPlaces run.final.warnings =
        underflowPlaces
          (Machine.after program run.trace.length).warnings := by
    rw [hRun.final_warnings, underflowPlaces_append,
      underflowPlaces_closing, List.append_nil]
    rfl
  have hInvented :
      inventionLog program run.trace.length =
        placeholders 0 (underflowPlaces run.final.warnings) := by
    rcases hReckons.places_eq with ⟨places, hSame, hMade⟩
    rw [hPlaces, hMade, hSame]
    rfl
  have hBalance :
      ((executed program run.trace).map
          Instruction.balance).sum =
        ((List.range run.trace.length).map fun k =>
          (Machine.after program k).state.balance
            program).sum := by
    rw [sum_balance_executed]
    conv_lhs => rw [hTrace]
    rw [List.map_map]
    rfl
  refine
    { trace_eq := hTrace, executed_length := ?_, height_eq := ?_
      invented_eq := hInvented, names_nodup := ?_
      registers_nil := ?_, states_precede := ?_ }
  · unfold executed
    rw [List.filterMap_length_eq_length]
    intro s hMember
    simpa using hRun.pc_lt s hMember
  · have hHeight := hReckons.height_eq
    change
      (run.final.state.stack.length : Int) =
        ((executed program run.trace).map
          Instruction.balance).sum +
          (underflowPlaces run.final.warnings).length
    rw [Run.replay_final, hBalance, ← length_placeholders 0,
      ← hInvented]
    simpa [Machine.initial, State.initial] using hHeight
  · change ((inventionLog program run.trace.length).map _).Nodup
    rw [hInvented]
    exact placeholders_nodup _
  · change ∀ s ∈ run.trace ++ [run.final.state], _
    rw [hStates]
    intro s hMember
    rcases List.mem_map.mp hMember with ⟨k, -, rfl⟩
    exact Machine.after_registers program k
  · change List.IsChain _ (run.trace ++ [run.final.state])
    rw [hStates, List.isChain_map]
    apply (List.isChain_range_succ _ _).mpr
    intro k hk
    rcases Run.exists_instruction program bounds hk with
      ⟨i, hAt⟩
    refine ⟨i, hAt, ?_⟩
    rw [Nat.succ_eq_add_one, Machine.after_succ hAt]
    exact Machine.step_precedes program.size i _

end Replay

end Devirt

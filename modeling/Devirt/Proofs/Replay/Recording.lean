import Devirt.Proofs.Replay.Trees

/-
  The constraints of a replay are the log of what its steps
  create.

  A step creates one constraint at most: a combination and a
  negation define their result, a store assigns to its cell,
  a branch records its condition.  The report looks for
  constraints in the snapshots instead, the path first and the
  cells last.  It still meets them in the order of the log,
  since a snapshot shows nothing new but what the step before
  it has created.

  Main declarations:
    * `Machine.created?`, what an instruction creates
    * `State.Gains` and `Machine.step_gains`
    * `creationLog`
    * `executeTimed_constraints`
-/

------------------------------------------------------------
-- Later Duplicates
------------------------------------------------------------

namespace Devirt

namespace Replay

/- The collector drops what it knows and later duplicates. -/
theorem distinct_eq_eraseDups
    (seen constraints : List Constraint) :
    distinct seen constraints =
      (constraints.removeAll seen).eraseDups := by
  fun_induction distinct seen constraints with
  | case1 seen => simp [List.removeAll]
  | case2 seen c rest hSeen ih =>
      have hSkip :
          (c :: rest).removeAll seen = rest.removeAll seen :=
        List.filter_cons_of_neg (by simpa using hSeen)
      rw [ih, hSkip]
  | case3 seen c rest hNew ih =>
      have hFirst :
          (c :: rest).removeAll seen =
            c :: rest.removeAll seen :=
        List.filter_cons_of_pos (by simpa using hNew)
      have hRest :
          (rest.removeAll seen).filter (fun d => !d == c) =
            rest.removeAll (c :: seen) := by
        simp [List.removeAll, List.filter_filter,
          beq_eq_decide]
      rw [ih, hFirst, List.eraseDups_cons, hRest]

theorem distinct_nodup
    (seen constraints : List Constraint) :
    (distinct seen constraints).Nodup ∧
      ∀ c ∈ distinct seen constraints, c ∉ seen := by
  fun_induction distinct seen constraints with
  | case1 seen => simp
  | case2 seen c rest hSeen ih => exact ih
  | case3 seen c rest hNew ih =>
      rcases ih with ⟨hNodup, hApart⟩
      refine ⟨List.nodup_cons.mpr ⟨?_, hNodup⟩, ?_⟩
      · exact fun hAgain =>
          hApart c hAgain List.mem_cons_self
      · intro d hMember
        rcases List.mem_cons.mp hMember with hHere | hLater
        · rw [hHere]
          simpa using hNew
        · exact fun hSeen =>
            hApart d hLater (List.mem_cons_of_mem c hSeen)

theorem mem_removeAll_iff
    {known constraints : List Constraint}
    {c : Constraint} :
    c ∈ constraints.removeAll known ↔
      c ∈ constraints ∧ c ∉ known := by
  simp [List.removeAll]

theorem eraseDups_of_forall_eq
    {constraints : List Constraint}
    {c : Constraint}
    (hMember : c ∈ constraints)
    (hAll : ∀ d ∈ constraints, d = c) :
    constraints.eraseDups = [c] := by
  cases constraints with
  | nil => cases hMember
  | cons first rest =>
      have hFirst : first = c := hAll first List.mem_cons_self
      subst hFirst
      have hNone :
          rest.filter (fun d => !d == first) = [] := by
        apply List.filter_eq_nil_iff.mpr
        intro d hLater
        simp [hAll d (List.mem_cons_of_mem _ hLater)]
      rw [List.eraseDups_cons, hNone, List.eraseDups_nil]

/-
  What is found after some constraints may be replaced by the
  one of them that can be new.
-/
theorem eraseDups_append_congr
    {known logged found : List Constraint}
    {created : Option Constraint}
    (hSame : known.eraseDups = logged.eraseDups)
    (hFound : ∀ c ∈ found, c ∈ known ∨ c ∈ created)
    (hHas : ∀ c ∈ created, c ∈ found) :
    (known ++ found).eraseDups =
      (logged ++ created.toList).eraseDups := by
  have hMembers : ∀ c, c ∈ logged ↔ c ∈ known := by
    intro c
    rw [← List.mem_eraseDups, ← hSame, List.mem_eraseDups]
  rw [List.eraseDups_append, List.eraseDups_append, hSame]
  congr 1
  by_cases hNew : ∃ c ∈ created, c ∉ known
  · rcases hNew with ⟨c, hCreated, hNew⟩
    have hLeft :
        (found.removeAll known).eraseDups = [c] := by
      apply eraseDups_of_forall_eq
      · exact mem_removeAll_iff.mpr ⟨hHas c hCreated, hNew⟩
      · intro d hMember
        rcases mem_removeAll_iff.mp hMember with
          ⟨hShown, hUnknown⟩
        have hOther := (hFound d hShown).resolve_left hUnknown
        exact Option.mem_unique hOther hCreated
    have hRight :
        (created.toList.removeAll logged).eraseDups = [c] := by
      rw [Option.mem_def.mp hCreated]
      simp [List.removeAll, hMembers, hNew,
        List.eraseDups_cons]
    rw [hLeft, hRight]
  · push Not at hNew
    have hLeft : found.removeAll known = [] := by
      apply List.eq_nil_iff_forall_not_mem.mpr
      intro c hMember
      rcases mem_removeAll_iff.mp hMember with
        ⟨hShown, hUnknown⟩
      rcases hFound c hShown with hKnown | hCreated
      · exact hUnknown hKnown
      · exact hUnknown (hNew c hCreated)
    have hRight : created.toList.removeAll logged = [] := by
      apply List.eq_nil_iff_forall_not_mem.mpr
      intro c hMember
      rcases mem_removeAll_iff.mp hMember with
        ⟨hCreated, hUnknown⟩
      exact
        hUnknown
          ((hMembers c).mpr
            (hNew c (Option.mem_toList.mp hCreated)))
    rw [hLeft, hRight]

end Replay

end Devirt

------------------------------------------------------------
-- Created Constraints
------------------------------------------------------------

namespace Devirt

namespace Replay

namespace Constraint

/- What defines the result of an operator on two values. -/
def combination
    (lhs : Value)
    (operator : String)
    (rhs : Value) :
    Constraint :=
  { kind := .definition
    expression :=
      lhs.operandText ++ " " ++ operator ++ " " ++
        rhs.operandText
    description :=
      "result of " ++ operator ++ " applied to " ++
        lhs.name ++ " and " ++ rhs.name }

/- What defines the negation of a value. -/
def negation
    (operand : Value) :
    Constraint :=
  { kind := .definition
    expression := "!" ++ operand.operandText
    description := "result of ! applied to " ++ operand.name }

end Constraint

theorem Value.binary_constraints
    (lhs : Value)
    (operator : String)
    (rhs : Value) :
    (Value.binary lhs operator rhs).constraints =
      [Constraint.combination lhs operator rhs] :=
  rfl

theorem Value.unary_constraints
    (operand : Value) :
    (Value.unary "!" operand).constraints =
      [Constraint.negation operand] := by
  have hWords :
      "result of " ++ "!" ++ " applied to " =
        "result of ! applied to " := by
    decide
  simp only [Value.unary, Value.defined,
    Constraint.negation, hWords]

namespace Machine

/- The right operand is popped first. -/
def combination
    (operator : String)
    (m : Machine) :
    Constraint :=
  let (rhs, rest) := m.pop
  Constraint.combination rest.pop.1 operator rhs

def assignment
    (i : Instruction)
    (m : Machine) :
    Constraint :=
  Constraint.stored i.subject m.pop.1.name m.state.pc

def branching
    (onZero : Bool)
    (m : Machine) :
    Constraint :=
  Constraint.branch onZero m.pop.1.operandText m.state.pc

/- What a known instruction creates at a machine. -/
def obeyed?
    (i : Instruction)
    (m : Machine) :
    Mnemonic → Option Constraint
  | .add => some (m.combination "+")
  | .sub => some (m.combination "-")
  | .mul => some (m.combination "*")
  | .div => some (m.combination "/")
  | .mod => some (m.combination "%")
  | .and => some (m.combination "&")
  | .or => some (m.combination "|")
  | .xor => some (m.combination "^")
  | .eq => some (m.combination "==")
  | .ne => some (m.combination "!=")
  | .lt => some (m.combination "<")
  | .le => some (m.combination "<=")
  | .gt => some (m.combination ">")
  | .ge => some (m.combination ">=")
  | .not => some (Constraint.negation m.pop.1)
  | .store => some (m.assignment i)
  | .jz => some (m.branching true)
  | .jnz => some (m.branching false)
  | .push => none
  | .loadConst => none
  | .pop => none
  | .dup => none
  | .load => none
  | .jmp => none
  | .call => none
  | .ret => none
  | .nop => none
  | .halt => none

/- What an instruction known by its category creates. -/
def guessed?
    (i : Instruction)
    (m : Machine) :
    Category → Option Constraint
  | .arithmetic => some (m.combination i.name)
  | .store => some (m.assignment i)
  | .load => none
  | .control => none
  | .call => none
  | .unknown => none

/- The constraint that an instruction creates, if any. -/
def created?
    (i : Instruction)
    (m : Machine) :
    Option Constraint :=
  match Mnemonic.ofName? i.name with
  | some mnemonic => m.obeyed? i mnemonic
  | none => m.guessed? i i.category

/- What an action creates. -/
def createdBy?
    (i : Instruction)
    (m : Machine) :
    Action → Option Constraint
  | .negate => some (Constraint.negation m.pop.1)
  | .branch onZero => some (m.branching onZero)
  | .store => some (m.assignment i)
  | .combine operator => some (m.combination operator)
  | _ => none

/- The rules for what is created, by action. -/
theorem created?_eq_createdBy?
    (i : Instruction)
    (m : Machine) :
    m.created? i = m.createdBy? i (Action.ofInstruction i) := by
  unfold created? Action.ofInstruction
  cases hName : Mnemonic.ofName? i.name with
  | none =>
      cases hCategory : i.category <;>
        simp [Action.ofCategory, hCategory, guessed?, createdBy?]
  | some mnemonic => cases mnemonic <;> rfl

/- Popping looks at the stack and the underflows alone. -/
theorem pop_congr
    {m n : Machine}
    (hState : m.state = n.state)
    (hUnderflows : m.underflows = n.underflows) :
    m.pop.1 = n.pop.1 ∧
      m.pop.2.state = n.pop.2.state ∧
      m.pop.2.underflows = n.pop.2.underflows := by
  unfold pop
  rw [hState, hUnderflows]
  split <;> exact ⟨rfl, rfl, rfl⟩

/- Warnings do not change what is created. -/
theorem createdBy?_recognise
    (i : Instruction)
    (m : Machine)
    (action : Action) :
    (m.recognise i).createdBy? i action =
      m.createdBy? i action := by
  have hFirst :=
    pop_congr (recognise_state m i) (recognise_underflows m i)
  have hSecond := pop_congr hFirst.2.1 hFirst.2.2
  cases action <;>
    simp [createdBy?, combination, assignment, branching,
      hFirst.1, hSecond.1]

end Machine

end Replay

end Devirt

------------------------------------------------------------
-- One Step
------------------------------------------------------------

namespace Devirt

namespace Replay

/- A constraint is found on the path or at a value. -/
theorem State.mem_constraints_iff
    {s : State}
    {c : Constraint} :
    c ∈ s.constraints ↔
      c ∈ s.path ∨
        (∃ v ∈ s.stack, c ∈ v.constraints) ∨
        (∃ cell ∈ s.memory, c ∈ cell.2.constraints) ∨
        ∃ cell ∈ s.registers, c ∈ cell.2.constraints := by
  simp only [State.constraints, State.values,
    List.mem_append, List.mem_flatMap, List.mem_reverse,
    List.mem_map, or_and_right, exists_or,
    exists_exists_and_eq_and, or_assoc]

/-
  A state shows what an earlier one has shown and a created
  constraint, and it does show the created one.  What the
  earlier one has shown may be lost.
-/
structure State.Gains
    (s later : State)
    (created : Option Constraint) : Prop where
  old_or_created :
    ∀ c ∈ later.constraints, c ∈ s.constraints ∨ c ∈ created
  created_shown : ∀ c ∈ created, c ∈ later.constraints

theorem State.Gains.of_subset
    {s later : State}
    (hSubset : later.constraints ⊆ s.constraints) :
    s.Gains later none :=
  ⟨fun _ hShown => Or.inl (hSubset hShown),
    fun _ hCreated => nomatch hCreated⟩

namespace Machine

theorem mem_push_constraints_iff
    {m : Machine}
    {v : Value}
    {c : Constraint} :
    c ∈ (m.push v).state.constraints ↔
      c ∈ v.constraints ∨ c ∈ m.state.constraints := by
  simp only [State.mem_constraints_iff, push,
    List.mem_cons, or_and_right, exists_or, exists_eq_left,
    or_assoc]
  exact or_left_comm

theorem pop_fst_constraints_subset
    (m : Machine) :
    m.pop.1.constraints ⊆ m.state.constraints := by
  intro c hShown
  unfold pop at hShown
  split at hShown
  · rename_i v rest hStack
    apply State.mem_constraints_iff.mpr
    exact Or.inr (Or.inl ⟨v, by simp [hStack], hShown⟩)
  · cases hShown

theorem pop_snd_constraints_subset
    (m : Machine) :
    m.pop.2.state.constraints ⊆ m.state.constraints := by
  intro c hShown
  unfold pop at hShown
  split at hShown
  · rename_i v rest hStack
    have hPushed :
        m.state =
          (push { m with state := { m.state with stack := rest } }
            v).state := by
      simp [push, ← hStack]
    rw [hPushed]
    exact mem_push_constraints_iff.mpr (Or.inr hShown)
  · exact hShown

/- The program counter shows nothing. -/
theorem goto_gains
    {s : State}
    {m : Machine}
    {created : Option Constraint}
    (hGains : s.Gains m.state created)
    (pc : Nat) :
    s.Gains (m.goto pc).state created :=
  ⟨hGains.old_or_created, hGains.created_shown⟩

/- Pushing what has just been created. -/
theorem push_gains
    {s : State}
    {m : Machine}
    {v : Value}
    {c : Constraint}
    (hSubset : m.state.constraints ⊆ s.constraints)
    (hValue : v.constraints = [c]) :
    s.Gains (m.push v).state (some c) := by
  refine ⟨?_, ?_⟩
  · intro d hShown
    rcases mem_push_constraints_iff.mp hShown with hNew | hOld
    · rw [hValue, List.mem_singleton] at hNew
      exact Or.inr (Option.mem_some_iff.mpr hNew.symm)
    · exact Or.inl (hSubset hOld)
  · intro d hCreated
    apply mem_push_constraints_iff.mpr
    rw [hValue, Option.mem_some_iff.mp hCreated]
    exact Or.inl List.mem_cons_self

/- Pushing what is known already. -/
theorem push_constraints_subset
    {s : State}
    {m : Machine}
    {v : Value}
    (hSubset : m.state.constraints ⊆ s.constraints)
    (hValue : v.constraints ⊆ s.constraints) :
    (m.push v).state.constraints ⊆ s.constraints := by
  intro c hShown
  rcases mem_push_constraints_iff.mp hShown with hNew | hOld
  · exact hValue hNew
  · exact hSubset hOld

end Machine

theorem Memory.mem_set_self
    (name : String)
    (value : Value)
    (memory : Memory) :
    (name, value) ∈ Memory.set name value memory := by
  induction memory with
  | nil => simp [Memory.set]
  | cons cell rest ih =>
      unfold Memory.set
      split_ifs <;> simp [ih]

theorem Memory.mem_of_get?
    {name : String}
    {value : Value}
    {memory : Memory}
    (hFound : Memory.get? name memory = some value) :
    (name, value) ∈ memory := by
  induction memory with
  | nil => simp [Memory.get?] at hFound
  | cons cell rest ih =>
      rw [Memory.get?_cons] at hFound
      split_ifs at hFound with hName
      · cases hFound
        simp [hName]
      · exact List.mem_cons_of_mem _ (ih hFound)

namespace Machine

/- What a cell is loaded with is known, unless it is empty. -/
theorem load_constraints_subset
    (m : Machine)
    (name : String) :
    ((m.state.memory.get? name).getD
        (Value.cell name)).constraints ⊆
      m.state.constraints := by
  cases hFound : Memory.get? name m.state.memory with
  | none => exact List.nil_subset _
  | some v =>
      intro c hShown
      apply State.mem_constraints_iff.mpr
      have hCell := Memory.mem_of_get? hFound
      exact Or.inr (Or.inr (Or.inl ⟨_, hCell, hShown⟩))

/- A cell takes over a known value and its assignment. -/
theorem setCell_gains
    {s : State}
    {m : Machine}
    {v : Value}
    (name : String)
    (c : Constraint)
    (hSubset : m.state.constraints ⊆ s.constraints)
    (hValue : v.constraints ⊆ s.constraints) :
    s.Gains
      { m with
        state :=
          { m.state with
            memory :=
              Memory.set name
                { v with constraints := v.constraints ++ [c] }
                m.state.memory } }.state
      (some c) := by
  refine ⟨?_, ?_⟩
  · intro d hShown
    rcases State.mem_constraints_iff.mp hShown with
      hPath | hStack | ⟨cell, hCell, hShown⟩ | hRegisters
    · have hOld : d ∈ m.state.constraints :=
        State.mem_constraints_iff.mpr (Or.inl hPath)
      exact Or.inl (hSubset hOld)
    · have hOld : d ∈ m.state.constraints :=
        State.mem_constraints_iff.mpr (Or.inr (Or.inl hStack))
      exact Or.inl (hSubset hOld)
    · rcases Memory.mem_set hCell with rfl | hKept
      · rcases List.mem_append.mp hShown with hKnown | hNew
        · exact Or.inl (hValue hKnown)
        · rw [List.mem_singleton.mp hNew]
          exact Or.inr rfl
      · have hOld : d ∈ m.state.constraints :=
          State.mem_constraints_iff.mpr
            (Or.inr (Or.inr (Or.inl ⟨cell, hKept, hShown⟩)))
        exact Or.inl (hSubset hOld)
    · have hOld : d ∈ m.state.constraints :=
        State.mem_constraints_iff.mpr
          (Or.inr (Or.inr (Or.inr hRegisters)))
      exact Or.inl (hSubset hOld)
  · rintro d ⟨⟩
    have hCell := Memory.mem_set_self name
      { v with constraints := v.constraints ++ [c] }
      m.state.memory
    apply State.mem_constraints_iff.mpr
    exact Or.inr (Or.inr (Or.inl ⟨_, hCell, by simp⟩))

/- A branch is written down at the end of the path. -/
theorem branch_gains
    {s : State}
    {m : Machine}
    (c : Constraint)
    (hSubset : m.state.constraints ⊆ s.constraints) :
    s.Gains
      { m with
        state :=
          { m.state with path := m.state.path ++ [c] } }.state
      (some c) := by
  have hShown :
      ∀ d,
        d ∈ { m.state with
              path := m.state.path ++ [c] }.constraints ↔
          d ∈ m.state.constraints ∨ d = c := by
    intro d
    simp only [State.mem_constraints_iff, List.mem_append,
      List.mem_singleton]
    exact or_right_comm
  refine ⟨?_, ?_⟩
  · intro d hMember
    rcases (hShown d).mp hMember with hOld | rfl
    · exact Or.inl (hSubset hOld)
    · exact Or.inr rfl
  · rintro d ⟨⟩
    exact (hShown c).mpr (Or.inr rfl)

/- An action shows what it creates, and nothing else new. -/
theorem perform_gains
    (length : Nat)
    (i : Instruction)
    (m : Machine)
    (action : Action) :
    m.state.Gains (m.perform length i action).state
      (m.createdBy? i action) := by
  have hSelf := List.Subset.refl m.state.constraints
  have hValue := m.pop_fst_constraints_subset
  have hRest := m.pop_snd_constraints_subset
  cases action with
  | constant =>
      have hPushed :
          ∀ v : Value, v.constraints = [] →
            (m.push v).state.constraints ⊆
              m.state.constraints := by
        intro v hNone
        apply push_constraints_subset hSelf
        simp [hNone]
      unfold perform
      cases i.operands with
      | nil => exact goto_gains (.of_subset (hPushed _ rfl)) _
      | cons l rest =>
          exact goto_gains (.of_subset (hPushed _ rfl)) _
  | discard => exact goto_gains (.of_subset hRest) _
  | duplicate =>
      have hOnce := push_constraints_subset hRest hValue
      have hTwice := push_constraints_subset hOnce hValue
      exact goto_gains (.of_subset hTwice) _
  | negate =>
      have hDefined := Value.unary_constraints m.pop.1
      exact goto_gains (push_gains hRest hDefined) _
  | jump =>
      have hTarget :
          (m.target length i).2.state.constraints ⊆
            m.state.constraints := by
        rw [target_state]
        exact hSelf
      exact goto_gains (.of_subset hTarget) _
  | branch onZero =>
      have hTarget :
          (m.pop.2.target length i).2.state.constraints ⊆
            m.state.constraints := by
        rw [target_state]
        exact hRest
      have hCreated :
          m.branching onZero =
            Constraint.branch onZero m.pop.1.operandText
              (m.pop.2.target length i).2.state.pc := by
        simp [branching]
      simp only [createdBy?, hCreated]
      exact goto_gains (branch_gains _ hTarget) _
  | call => exact goto_gains (.of_subset hSelf) _
  | load =>
      have hLoaded :=
        push_constraints_subset hSelf
          (m.load_constraints_subset i.subject)
      exact goto_gains (.of_subset hLoaded) _
  | store =>
      have hCreated :
          m.assignment i =
            Constraint.stored i.subject m.pop.1.name
              m.pop.2.state.pc := by
        simp [assignment]
      simp only [createdBy?, hCreated]
      exact goto_gains (setCell_gains _ _ hRest hValue) _
  | halt => exact .of_subset hSelf
  | skip => exact goto_gains (.of_subset hSelf) _
  | combine operator =>
      have hOperands :
          m.pop.2.pop.2.state.constraints ⊆
            m.state.constraints :=
        fun _ hShown =>
          hRest (m.pop.2.pop_snd_constraints_subset hShown)
      have hDefined :=
        Value.binary_constraints m.pop.2.pop.1 operator m.pop.1
      exact goto_gains (push_gains hOperands hDefined) _

/- A step shows what its instruction creates. -/
theorem step_gains
    (length : Nat)
    (i : Instruction)
    (m : Machine) :
    m.state.Gains (m.step length i).state (m.created? i) := by
  have hPerform :=
    (m.recognise i).perform_gains length i
      (Action.ofInstruction i)
  rwa [recognise_state, createdBy?_recognise,
    ← created?_eq_createdBy?] at hPerform

end Machine

------------------------------------------------------------
-- Whole Runs
------------------------------------------------------------

/-
  What the instruction at the program counter creates; there
  is none outside the program.
-/
def Machine.creates?
    (program : Array Instruction)
    (m : Machine) :
    Option Constraint :=
  program[m.state.pc]?.bind m.created?

/- What the first steps of a program create, in order. -/
def creationLog
    (program : Array Instruction)
    (steps : Nat) :
    List Constraint :=
  (List.range steps).filterMap fun k =>
    (Machine.after program k).creates? program

theorem creationLog_succ
    (program : Array Instruction)
    (steps : Nat) :
    creationLog program (steps + 1) =
      creationLog program steps ++
        ((Machine.after program steps).creates?
          program).toList := by
  unfold creationLog
  rw [List.range_succ, List.filterMap_append]
  cases hCreated :
      (Machine.after program steps).creates? program <;>
    simp [hCreated]

theorem Machine.after_gains
    (program : Array Instruction)
    (count : Nat) :
    (Machine.after program count).state.Gains
      (Machine.after program (count + 1)).state
      ((Machine.after program count).creates? program) := by
  unfold Machine.after creates?
  rw [Function.iterate_succ_apply']
  generalize (Machine.next program)^[count] Machine.initial = m
  unfold Machine.next
  cases program[m.state.pc]? with
  | none => exact .of_subset (List.Subset.refl _)
  | some i =>
      rw [Option.bind_some]
      exact m.step_gains program.size i

/- The constraints of the snapshots up to a step. -/
def snapshotConstraints
    (program : Array Instruction)
    (steps : Nat) :
    List Constraint :=
  (List.range (steps + 1)).flatMap fun k =>
    (Machine.after program k).state.constraints

/- The snapshots show the log, later duplicates apart. -/
theorem snapshotConstraints_eraseDups
    (program : Array Instruction)
    (steps : Nat) :
    (snapshotConstraints program steps).eraseDups =
      (creationLog program steps).eraseDups := by
  induction steps with
  | zero =>
      simp [snapshotConstraints, creationLog, Machine.after,
        Machine.initial, State.initial, State.constraints,
        State.values]
  | succ steps ih =>
      have hGains := Machine.after_gains program steps
      have hNext :
          snapshotConstraints program (steps + 1) =
            snapshotConstraints program steps ++
              (Machine.after program
                (steps + 1)).state.constraints := by
        unfold snapshotConstraints
        rw [List.range_succ, List.flatMap_append]
        simp
      rw [hNext, creationLog_succ]
      apply eraseDups_append_congr ih
      · intro c hShown
        rcases hGains.old_or_created c hShown with
          hOld | hCreated
        · refine Or.inl (List.mem_flatMap.mpr ?_)
          exact ⟨steps, by simp, hOld⟩
        · exact Or.inr hCreated
      · exact hGains.created_shown

------------------------------------------------------------
-- The Collected Constraints
------------------------------------------------------------

/-
  What a report says of the constraints of a program that was
  replayed: they are those that the executed instructions have
  created, in that order and each of them once.
-/
structure RecordsCreations
    (program : Array Instruction)
    (report : Report) : Prop where
  /- the executed instructions are those at these places -/
  trace_eq :
    report.trace =
      (List.range report.trace.length).map
        fun k => (Machine.after program k).state
  constraints_eq :
    report.constraints =
      (creationLog program report.trace.length).eraseDups
  nodup : report.constraints.Nodup
  mem_iff :
    ∀ c,
      c ∈ report.constraints ↔
        ∃ k < report.trace.length, ∃ i,
          program[(Machine.after program k).state.pc]? =
              some i ∧
            (Machine.after program k).created? i = some c

/-
  Whatever the clock, a replay reports the constraints that
  its steps have created.
-/
theorem executeTimed_recordsCreations
    (expired : Nat → Bool)
    (program : Array Instruction)
    (settings : ReplaySettings) :
    RecordsCreations program
      (executeTimed expired program settings) := by
  let bounds :=
    Bounds.ofSettings settings expired program.size
  let run := replay program bounds
  have hTrace := Run.replay_trace program bounds
  have hSnapshots :
      (run.trace ++ [run.final.state]).flatMap
          State.constraints =
        snapshotConstraints program run.trace.length := by
    unfold snapshotConstraints
    rw [List.range_succ, List.flatMap_append,
      List.flatMap_append, hTrace, List.flatMap_map,
      List.flatMap_singleton, List.flatMap_singleton,
      (Run.replay_follows program bounds).final_state]
    simp [Machine.after]
  have hConstraints :
      run.constraints =
        (creationLog program run.trace.length).eraseDups := by
    unfold Run.constraints
    rw [hSnapshots, distinct_eq_eraseDups,
      ← snapshotConstraints_eraseDups]
    simp [List.removeAll]
  refine
    { trace_eq := hTrace, constraints_eq := hConstraints,
      nodup := (distinct_nodup _ _).1, mem_iff := ?_ }
  intro c
  change c ∈ run.constraints ↔ _
  rw [hConstraints, List.mem_eraseDups]
  simp [creationLog, Machine.creates?,
    Option.bind_eq_some_iff, run, executeTimed, Run.report,
    bounds]

end Replay

end Devirt

import Devirt.Proofs.Replay.Iteration
import Mathlib.Data.List.Forall2
import Mathlib.Data.Option.Basic
import Mathlib.Data.String.Basic

/-
  Replays simulate a stack machine over expression trees.

  The tree machine executes the same programs, but builds
  trees where a replay builds texts.  It has its own rule for
  every mnemonic and every category.  A replay shows it: in
  each state the texts of the stack and of the cells are the
  infix forms of the trees.

  Main declarations:
    * `Expression`, `Expression.render`
    * `TreeMachine`, `TreeMachine.step`
    * `Value.Shows`, `State.Shows`
    * `Machine.Simulates.step`
    * `executeTimed_shows_trees`
-/

------------------------------------------------------------
-- Expressions
------------------------------------------------------------

namespace Devirt

namespace Replay

inductive Expression where
  | leaf (name : String)
  | binary (operator : String) (left right : Expression)
  | not (operand : Expression)
  deriving DecidableEq, Repr

namespace Expression

def isCompound : Expression → Bool
  | leaf _ => false
  | binary _ _ _ => true
  | not _ => true

/- A text as an operand: in parentheses if it is compound. -/
def bracket
    (compound : Bool)
    (text : String) :
    String :=
  if compound then "(" ++ text ++ ")" else text

/- The infix form. -/
def render : Expression → String
  | leaf name => name
  | binary operator left right =>
      bracket left.isCompound left.render ++ " " ++
        operator ++ " " ++
        bracket right.isCompound right.render
  | not operand =>
      "!" ++ bracket operand.isCompound operand.render

end Expression

------------------------------------------------------------
-- The Tree Machine
------------------------------------------------------------

/-
  The stack has its top first.  `invented` lists the names
  of the leaves that were made up for an empty stack, the
  latest first.
-/
structure TreeMachine where
  pc : Nat
  stack : List Expression
  cells : String → Option Expression
  invented : List String

namespace TreeMachine

def initial : TreeMachine :=
  ⟨0, [], fun _ => none, []⟩

def push
    (t : TreeMachine)
    (e : Expression) :
    TreeMachine :=
  { t with stack := e :: t.stack }

/- The name of a leaf for an empty stack. -/
def freshName
    (pc count : Nat) :
    String :=
  "underflow_" ++ toString pc ++ "_" ++ toString count

/- The top of the stack, or a fresh leaf. -/
def pop
    (t : TreeMachine) :
    Expression × TreeMachine :=
  match t.stack with
  | e :: rest => (e, { t with stack := rest })
  | [] =>
      let name := freshName t.pc t.invented.length
      (.leaf name, { t with invented := name :: t.invented })

/- The right operand is popped first. -/
def combine
    (operator : String)
    (t : TreeMachine) :
    TreeMachine :=
  let (right, t) := t.pop
  let (left, t) := t.pop
  t.push (.binary operator left right)

def load
    (name : String)
    (t : TreeMachine) :
    TreeMachine :=
  t.push ((t.cells name).getD (.leaf name))

def store
    (name : String)
    (t : TreeMachine) :
    TreeMachine :=
  let (e, t) := t.pop
  { t with cells := Function.update t.cells name (some e) }

/- The text of the value that an instruction carries. -/
def immediate
    (i : Instruction)
    (pc : Nat) :
    String :=
  match i.operands with
  | l :: _ => l.describe
  | [] => "imm_" ++ toString pc

/- The effect of a known instruction on stack and cells. -/
def obey
    (i : Instruction)
    (t : TreeMachine) :
    Mnemonic → TreeMachine
  | .push => t.push (.leaf (immediate i t.pc))
  | .loadConst => t.push (.leaf (immediate i t.pc))
  | .pop => t.pop.2
  | .dup =>
      let (e, t) := t.pop
      (t.push e).push e
  | .not =>
      let (e, t) := t.pop
      t.push (.not e)
  | .jz => t.pop.2
  | .jnz => t.pop.2
  | .load => t.load i.subject
  | .store => t.store i.subject
  | .jmp => t
  | .call => t
  | .ret => t
  | .nop => t
  | .halt => t
  | .add => t.combine "+"
  | .sub => t.combine "-"
  | .mul => t.combine "*"
  | .div => t.combine "/"
  | .mod => t.combine "%"
  | .and => t.combine "&"
  | .or => t.combine "|"
  | .xor => t.combine "^"
  | .eq => t.combine "=="
  | .ne => t.combine "!="
  | .lt => t.combine "<"
  | .le => t.combine "<="
  | .gt => t.combine ">"
  | .ge => t.combine ">="

/- The effect of an instruction known by its category. -/
def guess
    (i : Instruction)
    (t : TreeMachine) :
    Category → TreeMachine
  | .load => t.load i.subject
  | .store => t.store i.subject
  | .arithmetic => t.combine i.name
  | .control => t
  | .call => t
  | .unknown => t

/- The effect of an instruction on stack and cells. -/
def apply
    (i : Instruction)
    (t : TreeMachine) :
    TreeMachine :=
  match Mnemonic.ofName? i.name with
  | some mnemonic => t.obey i mnemonic
  | none => t.guess i i.category

def step
    (i : Instruction)
    (t : TreeMachine) :
    TreeMachine :=
  { t.apply i with pc := i.successor t.pc }

def next
    (program : Array Instruction)
    (t : TreeMachine) :
    TreeMachine :=
  match program[t.pc]? with
  | some i => t.step i
  | none => t

/- The tree machine after so many steps of a program. -/
def after
    (program : Array Instruction)
    (count : Nat) :
    TreeMachine :=
  (next program)^[count] initial

end TreeMachine

------------------------------------------------------------
-- Texts of Trees
------------------------------------------------------------

namespace Value

/-
  The text of a value is the infix form of a tree, and the
  value counts as an expression just if the tree is compound.
-/
structure Shows
    (v : Value)
    (e : Expression) : Prop where
  name_eq : v.name = e.render
  kind_iff : v.kind = .expression ↔ e.isCompound = true

theorem Shows.operandText_eq
    {v : Value}
    {e : Expression}
    (hShows : v.Shows e) :
    v.operandText =
      Expression.bracket e.isCompound e.render := by
  unfold operandText Expression.bracket
  by_cases hCompound : e.isCompound = true
  · have hKind := hShows.kind_iff.mpr hCompound
    simp [hKind, hCompound, hShows.name_eq]
  · have hKind := mt hShows.kind_iff.mp hCompound
    cases hCase : v.kind with
    | expression => exact absurd hCase hKind
    | _ => simp [hCompound, hShows.name_eq]

theorem shows_constant
    (l : Literal) :
    (constant l).Shows (.leaf l.describe) :=
  ⟨rfl, by simp [constant, Expression.isCompound]⟩

theorem shows_placeholder
    (name : String) :
    (placeholder name).Shows (.leaf name) :=
  ⟨rfl, by simp [placeholder, Expression.isCompound]⟩

theorem shows_cell
    (name : String) :
    (cell name).Shows (.leaf name) :=
  ⟨rfl, by simp [cell, Expression.isCompound]⟩

theorem Shows.unary
    {v : Value}
    {e : Expression}
    (hShows : v.Shows e) :
    (Value.unary "!" v).Shows (.not e) := by
  refine ⟨?_, ?_⟩
  · change "!" ++ v.operandText = _
    rw [hShows.operandText_eq]
    rfl
  · simp [Value.unary, defined, Expression.isCompound]

theorem Shows.binary
    {lhs rhs : Value}
    {left right : Expression}
    (operator : String)
    (hLeft : lhs.Shows left)
    (hRight : rhs.Shows right) :
    (Value.binary lhs operator rhs).Shows
      (.binary operator left right) := by
  refine ⟨?_, ?_⟩
  · change
      lhs.operandText ++ " " ++ operator ++ " " ++
        rhs.operandText = _
    rw [hLeft.operandText_eq, hRight.operandText_eq]
    rfl
  · simp [Value.binary, defined, Expression.isCompound]

/- What is recorded about a value does not change its text. -/
theorem Shows.withConstraints
    {v : Value}
    {e : Expression}
    (hShows : v.Shows e)
    (constraints : List Constraint) :
    { v with constraints }.Shows e :=
  ⟨hShows.name_eq, hShows.kind_iff⟩

end Value

------------------------------------------------------------
-- Cells
------------------------------------------------------------

namespace Memory

/- Every name has one cell at most, and cells are in order. -/
def Sorted (memory : Memory) : Prop :=
  List.Pairwise (fun a b => a.1 < b.1) memory

theorem get?_cons
    (name key : String)
    (content : Value)
    (rest : Memory) :
    get? name ((key, content) :: rest) =
      if name = key then some content
      else get? name rest := by
  by_cases hKey : name = key
  · simp [get?, hKey]
  · simp [get?, hKey, Ne.symm hKey]

theorem get?_set
    (name other : String)
    (value : Value)
    (memory : Memory) :
    get? other (set name value memory) =
      if other = name then some value
      else get? other memory := by
  induction memory with
  | nil => exact get?_cons other name value []
  | cons cell rest ih =>
      rcases cell with ⟨key, content⟩
      unfold set
      split
      · exact get?_cons other name value _
      · split
        · rename_i hSame
          have hKey : key = name := by simpa using hSame
          subst key
          rw [get?_cons, get?_cons]
          split <;> rfl
        · rename_i hOther
          have hKey : key ≠ name := by simpa using hOther
          rw [get?_cons, get?_cons, ih]
          by_cases hName : other = name
          · subst other
            simp [Ne.symm hKey]
          · simp [hName]

/- Setting a cell adds no other cell. -/
theorem mem_set
    {name : String}
    {value : Value}
    {memory : Memory}
    {cell : String × Value}
    (hMember : cell ∈ set name value memory) :
    cell = (name, value) ∨ cell ∈ memory := by
  induction memory with
  | nil =>
      simp only [set, List.mem_singleton] at hMember
      exact Or.inl hMember
  | cons first rest ih =>
      rcases first with ⟨key, content⟩
      unfold set at hMember
      split at hMember
      · rcases List.mem_cons.mp hMember with hHere | hLater
        · exact Or.inl hHere
        · exact Or.inr hLater
      · split at hMember
        · rcases List.mem_cons.mp hMember with hHere | hLater
          · exact Or.inl hHere
          · exact Or.inr (List.mem_cons_of_mem _ hLater)
        · rcases List.mem_cons.mp hMember with hHere | hLater
          · exact Or.inr (by simp [hHere])
          · rcases ih hLater with hName | hOld
            · exact Or.inl hName
            · exact Or.inr (List.mem_cons_of_mem _ hOld)

theorem Sorted.set
    {memory : Memory}
    (hSorted : Sorted memory)
    (name : String)
    (value : Value) :
    Sorted (Memory.set name value memory) := by
  induction memory with
  | nil => exact List.pairwise_singleton _ _
  | cons cell rest ih =>
      rcases cell with ⟨key, content⟩
      rcases List.pairwise_cons.mp hSorted with
        ⟨hFirst, hRest⟩
      unfold Memory.set
      split
      · rename_i hBefore
        refine List.pairwise_cons.mpr ⟨?_, hSorted⟩
        intro other hOther
        rcases List.mem_cons.mp hOther with hHere | hLater
        · rw [hHere]
          exact hBefore
        · exact lt_trans hBefore (hFirst other hLater)
      · rename_i hNotBefore
        split
        · rename_i hSame
          have hKey : key = name := by simpa using hSame
          subst key
          exact List.pairwise_cons.mpr ⟨hFirst, hRest⟩
        · rename_i hOther
          have hAfter : key < name := by
            have hNe : key ≠ name := by simpa using hOther
            exact lt_of_le_of_ne (not_lt.mp hNotBefore) hNe
          refine List.pairwise_cons.mpr ⟨?_, ih hRest⟩
          intro other hMember
          rcases mem_set hMember with hName | hOld
          · rw [hName]
            exact hAfter
          · exact hFirst other hOld

end Memory

------------------------------------------------------------
-- One Step
------------------------------------------------------------

/-
  A state shows a tree machine: same place, and the texts of
  stack and cells are those of the trees.
-/
structure State.Shows
    (s : State)
    (t : TreeMachine) : Prop where
  pc_eq : s.pc = t.pc
  stack_shows : List.Forall₂ Value.Shows s.stack t.stack
  memory_shows :
    ∀ name,
      Option.Rel Value.Shows
        (Memory.get? name s.memory) (t.cells name)
  memory_sorted : Memory.Sorted s.memory

/-
  A machine simulates a tree machine: its state shows it,
  and both have made up equally many leaves.
-/
structure Machine.Simulates
    (m : Machine)
    (t : TreeMachine) : Prop where
  shows_state : m.state.Shows t
  underflows_eq : m.underflows = t.invented.length

namespace Machine.Simulates

variable {m : Machine}
variable {t : TreeMachine}

theorem recognise
    (hSim : m.Simulates t)
    (i : Instruction) :
    (m.recognise i).Simulates t := by
  refine ⟨?_, ?_⟩
  · rw [recognise_state]
    exact hSim.shows_state
  · rw [recognise_underflows]
    exact hSim.underflows_eq

theorem push
    (hSim : m.Simulates t)
    {v : Value}
    {e : Expression}
    (hShows : v.Shows e) :
    (m.push v).Simulates (t.push e) :=
  ⟨{ hSim.shows_state with
      stack_shows :=
        List.Forall₂.cons hShows
          hSim.shows_state.stack_shows },
    hSim.underflows_eq⟩

/- Both machines pop the same value, made up or not. -/
theorem pop
    (hSim : m.Simulates t) :
    m.pop.1.Shows t.pop.1 ∧
      m.pop.2.Simulates t.pop.2 := by
  have hStack := hSim.shows_state.stack_shows
  unfold Machine.pop TreeMachine.pop
  cases hValues : m.state.stack with
  | nil =>
      rw [hValues] at hStack
      have hTrees : t.stack = [] :=
        List.forall₂_nil_left_iff.mp hStack
      rw [hTrees]
      simp only [hSim.shows_state.pc_eq, hSim.underflows_eq]
      refine ⟨Value.shows_placeholder _, ?_, ?_⟩
      · exact
          { hSim.shows_state with
            stack_shows := by simp [hValues] }
      · rfl
  | cons v values =>
      rw [hValues] at hStack
      rcases List.forall₂_cons_left_iff.mp hStack with
        ⟨e, trees, hShows, hRest, hTrees⟩
      rw [hTrees]
      exact
        ⟨hShows,
          { hSim.shows_state with stack_shows := hRest },
          hSim.underflows_eq⟩

theorem target
    (hSim : m.Simulates t)
    (length : Nat)
    (i : Instruction) :
    (m.target length i).2.Simulates t := by
  refine ⟨?_, ?_⟩
  · rw [target_state]
    exact hSim.shows_state
  · unfold Machine.target
    split
    · exact hSim.underflows_eq
    · split <;> exact hSim.underflows_eq

theorem goto
    (hSim : m.Simulates t)
    (pc : Nat) :
    (m.goto pc).Simulates { t with pc } :=
  ⟨{ hSim.shows_state with pc_eq := rfl },
    hSim.underflows_eq⟩

theorem combine
    (hSim : m.Simulates t)
    (operator : String) :
    let (rhs, rest) := m.pop
    let (lhs, rest) := rest.pop
    (rest.push (Value.binary lhs operator rhs)).Simulates
      (t.combine operator) := by
  have hRight := hSim.pop
  have hLeft := hRight.2.pop
  exact hLeft.2.push (Value.Shows.binary operator hLeft.1 hRight.1)

theorem load
    (hSim : m.Simulates t)
    (name : String) :
    (m.push
        ((m.state.memory.get? name).getD
          (Value.cell name))).Simulates (t.load name) := by
  refine hSim.push ?_
  have hCell := hSim.shows_state.memory_shows name
  cases hTree : t.cells name with
  | none =>
      rw [hTree] at hCell
      cases hValue : Memory.get? name m.state.memory with
      | none => exact Value.shows_cell name
      | some v =>
          rw [hValue] at hCell
          cases hCell
  | some e =>
      rw [hTree] at hCell
      cases hValue : Memory.get? name m.state.memory with
      | none =>
          rw [hValue] at hCell
          cases hCell
      | some v =>
          rw [hValue] at hCell
          cases hCell with
          | some hShows => exact hShows

theorem setCell
    (hSim : m.Simulates t)
    (name : String)
    {v : Value}
    {e : Expression}
    (hShows : v.Shows e) :
    { m with state :=
        { m.state with
          memory := Memory.set name v m.state.memory } }.Simulates
      { t with cells := Function.update t.cells name (some e) } := by
  refine
    ⟨{ hSim.shows_state with
        memory_shows := ?_
        memory_sorted :=
          hSim.shows_state.memory_sorted.set name v },
      hSim.underflows_eq⟩
  intro other
  rw [Memory.get?_set]
  by_cases hName : other = name
  · subst other
    simpa using Option.Rel.some hShows
  · simpa [hName] using hSim.shows_state.memory_shows other

end Machine.Simulates

/- The effect of an action on the tree machine. -/
def TreeMachine.act
    (i : Instruction)
    (t : TreeMachine) :
    Action → TreeMachine
  | .constant => t.push (.leaf (immediate i t.pc))
  | .discard => t.pop.2
  | .duplicate => (t.pop.2.push t.pop.1).push t.pop.1
  | .negate => t.pop.2.push (.not t.pop.1)
  | .jump => t
  | .branch _ => t.pop.2
  | .call => t
  | .load => t.load i.subject
  | .store => t.store i.subject
  | .halt => t
  | .skip => t
  | .combine operator => t.combine operator

/- The rules of the tree machine, by action. -/
theorem TreeMachine.apply_eq_act
    (i : Instruction)
    (t : TreeMachine) :
    t.apply i = t.act i (Action.ofInstruction i) := by
  unfold apply Action.ofInstruction
  cases hName : Mnemonic.ofName? i.name with
  | none =>
      cases hCategory : i.category <;>
        simp [Action.ofCategory, hCategory, guess, act]
  | some mnemonic => cases mnemonic <;> rfl

namespace Machine.Simulates

variable {m : Machine}
variable {t : TreeMachine}

/- An action keeps up the simulation. -/
theorem perform
    (hSim : m.Simulates t)
    (length : Nat)
    (i : Instruction)
    (action : Action) :
    (m.perform length i action).Simulates
      { t.act i action with
        pc := (m.perform length i action).state.pc } := by
  have hPc := hSim.shows_state.pc_eq
  have hPop := hSim.pop
  cases action with
  | constant =>
      unfold Machine.perform TreeMachine.act
        TreeMachine.immediate
      cases hOperands : i.operands with
      | nil =>
          rw [hPc]
          exact (hSim.push (Value.shows_placeholder _)).goto _
      | cons l rest =>
          exact (hSim.push (Value.shows_constant l)).goto _
  | discard => exact hPop.2.goto _
  | duplicate =>
      exact ((hPop.2.push hPop.1).push hPop.1).goto _
  | negate => exact (hPop.2.push hPop.1.unary).goto _
  | jump => exact (hSim.target length i).goto _
  | branch onZero =>
      -- the recorded branch is no part of what is shown
      have hTarget := hPop.2.target length i
      exact
        ⟨{ hTarget.shows_state with pc_eq := rfl },
          hTarget.underflows_eq⟩
  | call => exact hSim.goto _
  | load => exact (hSim.load i.subject).goto _
  | store =>
      exact
        (hPop.2.setCell i.subject
          (hPop.1.withConstraints _)).goto _
  | halt =>
      exact
        ⟨{ hSim.shows_state with pc_eq := rfl },
          hSim.underflows_eq⟩
  | skip => exact hSim.goto _
  | combine operator => exact (hSim.combine operator).goto _

/- A step of both machines keeps up the simulation. -/
theorem step
    (hSim : m.Simulates t)
    (length : Nat)
    (i : Instruction) :
    (m.step length i).Simulates (t.step i) := by
  have hPerform :=
    (hSim.recognise i).perform length i
      (Action.ofInstruction i)
  have hStep := Machine.step_pc length i m
  unfold Machine.step at hStep ⊢
  unfold TreeMachine.step
  rw [hStep, hSim.shows_state.pc_eq,
    ← TreeMachine.apply_eq_act] at hPerform
  exact hPerform

theorem next
    (hSim : m.Simulates t)
    (program : Array Instruction) :
    (m.next program).Simulates (t.next program) := by
  unfold Machine.next TreeMachine.next
  rw [hSim.shows_state.pc_eq]
  cases program[t.pc]? with
  | none => exact hSim
  | some i => exact hSim.step program.size i

end Machine.Simulates

------------------------------------------------------------
-- Whole Runs
------------------------------------------------------------

theorem Machine.initial_simulates :
    Machine.initial.Simulates TreeMachine.initial :=
  ⟨⟨rfl, List.Forall₂.nil, fun _ => Option.Rel.none,
    List.Pairwise.nil⟩, rfl⟩

/- The machines of a replay simulate the tree machine. -/
theorem Machine.after_simulates
    (program : Array Instruction)
    (count : Nat) :
    (Machine.after program count).Simulates
      (TreeMachine.after program count) := by
  induction count with
  | zero => exact Machine.initial_simulates
  | succ count ih =>
      unfold Machine.after TreeMachine.after
      rw [Function.iterate_succ_apply',
        Function.iterate_succ_apply']
      exact ih.next program

------------------------------------------------------------
-- Fresh Leaves
------------------------------------------------------------

namespace TreeMachine

/- The count can be read off the name of a fresh leaf. -/
theorem freshName_count_injective
    {pc count pc' count' : Nat}
    (hSame : freshName pc count = freshName pc' count') :
    count = count' := by
  have hLists := congrArg String.toList hSame
  simp only [freshName, String.toList_append,
    List.append_assoc, List.append_cancel_left_eq] at hLists
  change
    pc.repr.toList ++ '_' :: count.repr.toList =
      pc'.repr.toList ++ '_' :: count'.repr.toList at hLists
  simp only [Nat.toList_repr] at hLists
  have hDigits :
      Nat.toDigits 10 count = Nat.toDigits 10 count' :=
    ((List.append_cons_inj_of_notMem
      Nat.underscore_not_in_toDigits
      Nat.underscore_not_in_toDigits).mp hLists).2.2
  have hValues := congrArg (Nat.ofDigitChars 10 · 0) hDigits
  simpa [Nat.ofDigitChars_toDigits] using hValues

/-
  The names made up so far are all different, and the next
  count is not used by any of them.
-/
structure NamesApart (names : List String) : Prop where
  nodup : names.Nodup
  count_lt :
    ∀ name ∈ names, ∃ pc, ∃ count < names.length,
      name = freshName pc count

theorem NamesApart.cons
    {names : List String}
    (hApart : NamesApart names)
    (pc : Nat) :
    NamesApart (freshName pc names.length :: names) := by
  refine ⟨List.nodup_cons.mpr ⟨?_, hApart.nodup⟩, ?_⟩
  · intro hUsed
    rcases hApart.count_lt _ hUsed with
      ⟨other, count, hCount, hName⟩
    have hSame := freshName_count_injective hName
    omega
  · intro name hMember
    rcases List.mem_cons.mp hMember with hHere | hLater
    · exact ⟨pc, names.length, by simp, hHere⟩
    · rcases hApart.count_lt name hLater with
        ⟨other, count, hCount, hName⟩
      exact
        ⟨other, count, Nat.lt_succ_of_lt hCount, hName⟩

theorem NamesApart.pop
    {t : TreeMachine}
    (hApart : NamesApart t.invented) :
    NamesApart t.pop.2.invented := by
  unfold TreeMachine.pop
  split
  · exact hApart
  · exact hApart.cons t.pc

/- Only pops make up names. -/
theorem NamesApart.act
    {t : TreeMachine}
    (hApart : NamesApart t.invented)
    (i : Instruction)
    (action : Action) :
    NamesApart (t.act i action).invented := by
  cases action with
  | discard => exact hApart.pop
  | duplicate => exact hApart.pop
  | negate => exact hApart.pop
  | branch onZero => exact hApart.pop
  | store => exact hApart.pop
  | combine operator => exact hApart.pop.pop
  | _ => exact hApart

theorem NamesApart.next
    {t : TreeMachine}
    (hApart : NamesApart t.invented)
    (program : Array Instruction) :
    NamesApart (t.next program).invented := by
  unfold TreeMachine.next
  split
  · rename_i i hAt
    unfold TreeMachine.step
    rw [apply_eq_act]
    -- the action need not be evaluated
    generalize Action.ofInstruction i = action
    exact hApart.act i action
  · exact hApart

theorem after_namesApart
    (program : Array Instruction)
    (count : Nat) :
    NamesApart (after program count).invented := by
  induction count with
  | zero => exact ⟨List.nodup_nil, by simp [after, initial]⟩
  | succ count ih =>
      unfold after
      rw [Function.iterate_succ_apply']
      exact ih.next program

end TreeMachine

------------------------------------------------------------
-- The Simulation
------------------------------------------------------------

/-
  Whatever the clock, every state in the trace of a replay
  and its final state show the tree machine after as many
  steps, and the leaves that were made up for an empty stack
  have different names.
-/
theorem executeTimed_shows_trees
    (expired : Nat → Bool)
    (program : Array Instruction)
    (settings : ReplaySettings) :
    List.Forall₂ State.Shows
        ((executeTimed expired program settings).trace ++
          [(executeTimed expired program settings).final])
        ((List.range
          ((executeTimed expired program settings).trace.length
            + 1)).map (TreeMachine.after program)) ∧
      ∀ count,
        (TreeMachine.after program count).invented.Nodup := by
  let bounds :=
    Bounds.ofSettings settings expired program.size
  let steps := (replay program bounds).trace.length
  have hStates :
      (replay program bounds).trace ++
          [(replay program bounds).final.state] =
        (List.range (steps + 1)).map
          fun k => (Machine.after program k).state := by
    rw [List.range_succ, List.map_append,
      ← Run.replay_trace]
    simp [(Run.replay_follows program bounds).final_state,
      Machine.after, steps]
  refine ⟨?_, fun count =>
    (TreeMachine.after_namesApart program count).nodup⟩
  change
    List.Forall₂ State.Shows
      ((replay program bounds).trace ++
        [(replay program bounds).final.state]) _
  rw [hStates, List.forall₂_map_left_iff,
    List.forall₂_map_right_iff]
  apply List.forall₂_same.mpr
  intro k _
  exact (Machine.after_simulates program k).shows_state

end Replay

end Devirt

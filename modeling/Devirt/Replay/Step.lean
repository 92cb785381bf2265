import Devirt.Replay.Mnemonic
import Devirt.Replay.State

/-
  One step of a replay.

  A machine is a state together with what the replay remembers beside it: the warnings
  it has given, the unknown names it has warned of, and how many values it had to make
  up because the stack was empty.

  Key definitions include:
    * `Machine`
    * `Machine.pop`
    * `Machine.perform`, `Machine.step`
-/

namespace Devirt

namespace Replay

------------------------------------------------------------
-- Machines
------------------------------------------------------------

structure Machine where
  state : State
  warnings : List Warning
  warned : List String
  underflows : Nat
  deriving Repr

namespace Machine

def initial : Machine := ⟨State.initial, [], [], 0⟩

def warn (m : Machine) (w : Warning) : Machine :=
  { m with warnings := m.warnings ++ [w] }

def push (m : Machine) (v : Value) : Machine :=
  { m with state := { m.state with stack := v :: m.state.stack } }

/-
  Takes the top of the stack; an empty stack yields a value of its own.
-/
def pop (m : Machine) : Value × Machine :=
  match m.state.stack with
  | v :: rest => (v, { m with state := { m.state with stack := rest } })
  | [] =>
    let pc := m.state.pc
    let name := "underflow_" ++ toString pc ++ "_" ++ toString m.underflows
    (Value.placeholder name,
      { m with warnings := m.warnings ++ [.underflow pc], underflows := m.underflows + 1 })

/-
  The target of a jump, with a warning if there is none or if it leaves a program of
  the given length.
-/
def target (m : Machine) (length : Nat) (i : Instruction) : Option Nat × Machine :=
  match i.index? with
  | none => (none, m.warn (.noTarget i.name m.state.pc))
  | some t =>
    if length ≤ t then
      (some t, m.warn (.outside t m.state.pc))
    else
      (some t, m)

def goto (m : Machine) (pc : Nat) : Machine :=
  { m with state := { m.state with pc := pc } }

def advance (m : Machine) : Machine :=
  m.goto (m.state.pc + 1)

/-
  Warns of a name that is no mnemonic, the first time it is met.
-/
def recognise (m : Machine) (i : Instruction) : Machine :=
  if i.isKnown || m.warned.contains i.name then
    m
  else
    { m with
      warnings := m.warnings ++ [.unrecognised i.name i.category]
      warned := i.name :: m.warned }

------------------------------------------------------------
-- Actions
------------------------------------------------------------

/-
  What an action does to a machine that runs a program of the given length.
-/
def perform
    (length : Nat)
    (i : Instruction)
    (m : Machine) :
    Action → Machine
  | .constant =>
    match i.operands with
    | l :: _ => (m.push (Value.constant l)).advance
    | [] => (m.push (Value.placeholder ("imm_" ++ toString m.state.pc))).advance
  | .discard => m.pop.2.advance
  | .duplicate =>
    let (v, m) := m.pop
    ((m.push v).push v).advance
  | .negate =>
    let (v, m) := m.pop
    (m.push (Value.unary "!" v)).advance
  | .jump =>
    let (t, m) := m.target length i
    m.goto (t.getD (m.state.pc + 1))
  | .branch onZero =>
    let (v, m) := m.pop
    let (t, m) := m.target length i
    let taken := Constraint.branch onZero v.operandText m.state.pc
    let m := { m with state := { m.state with path := m.state.path ++ [taken] } }
    m.goto (t.getD (m.state.pc + 1))
  | .call => m.advance
  | .load =>
    let v := (m.state.memory.get? i.subject).getD (Value.cell i.subject)
    (m.push v).advance
  | .store =>
    let (v, m) := m.pop
    let assigned := Constraint.stored i.subject v.name m.state.pc
    let v := { v with constraints := v.constraints ++ [assigned] }
    let memory := Memory.set i.subject v m.state.memory
    { m with state := { m.state with memory := memory } }.advance
  | .halt => m
  | .skip => m.advance
  | .combine operator =>
    let (rhs, m) := m.pop
    let (lhs, m) := m.pop
    (m.push (Value.binary lhs operator rhs)).advance

/-
  Executes one instruction.
-/
def step
    (length : Nat)
    (i : Instruction)
    (m : Machine) :
    Machine :=
  (m.recognise i).perform length i (Action.ofInstruction i)

end Machine

end Replay

end Devirt
